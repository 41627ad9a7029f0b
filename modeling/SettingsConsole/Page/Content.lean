import SettingsConsole.Json.Decode
import SettingsConsole.Table

/-!
# Content of the page

What the service reports about a node: the node itself, its add-ons, its wiki, its comment level,
the external accounts of the user, and the institutions.  Each type has a decoder and an encoder;
decoding what the encoder wrote gives the value back, and tolerates absent optional fields and
unknown keys of objects.
-/

namespace SettingsConsole

/-- The node the page belongs to. -/
structure NodeSummary where
  id : String
  title : String
  nodeType : Option String
  isRegistration : Bool
  description : String
  category : Option String
  /-- Whether the node is part of another one; only then may its category change. -/
  parentExists : Bool
  deriving DecidableEq, Repr

/-- An add-on of the node. -/
structure Addon where
  name : String
  label : String
  enabled : Bool
  /-- The terms to accept when it is enabled. -/
  terms : Option String
  deriving DecidableEq, Repr

/-- An account of the user with another provider. -/
structure Account where
  provider : String
  label : String
  connected : Bool
  deriving DecidableEq, Repr

/-- The names of the categories by their keys. -/
abbrev Categories := Table (fun key : String => key) String

/-- What the service reports for the page as a whole. -/
structure PageContent where
  node : NodeSummary
  addons : List Addon
  /-- Registrations have none. -/
  commentLevel : Option String
  wikiEnabled : Bool
  accounts : List Account
  categories : Categories
  deriving DecidableEq, Repr

/-- An institution. -/
structure Institution where
  id : String
  name : String
  /-- Its page in the browser. -/
  link : Option String
  deriving DecidableEq, Repr

/-- The institutions the node can be affiliated with, and the one it is affiliated with. -/
structure InstitutionChoices where
  available : List Institution
  primary : Option Institution
  deriving DecidableEq, Repr

namespace NodeSummary

/-- Reads a node summary. -/
def decode : Decoder NodeSummary := fun v => do
  let r ← Record.ofJson "NodeSummary" 7 v
  let id := r.slot 0 "id" Decode.text
  let title := r.slot 1 "title" Decode.text
  let nodeType := r.slot 2 "nodeType" (Decode.optional Decode.text)
  let isRegistration := r.slot 3 "isRegistration" Decode.flag
  let description := r.slot 4 "description" Decode.text
  let category := r.slot 5 "category" (Decode.optional Decode.text)
  let parentExists := r.slot 6 "parentExists" Decode.flag
  r.check [id.fault, title.fault, nodeType.fault, isRegistration.fault, description.fault,
    category.fault, parentExists.fault]
  let id ← r.required id
  let title ← r.required title
  let nodeType ← r.optional nodeType
  let isRegistration ← r.defaulted false isRegistration
  let description ← r.defaulted "" description
  let category ← r.optional category
  let parentExists ← r.defaulted false parentExists
  r.close
  return { id, title, nodeType, isRegistration, description, category, parentExists }

/-- Writes a node summary. -/
def encode (n : NodeSummary) : Json :=
  Json.ofFields [("id", .string n.id), ("title", .string n.title),
    ("nodeType", Json.ofText? n.nodeType), ("isRegistration", .bool n.isRegistration),
    ("description", .string n.description), ("category", Json.ofText? n.category),
    ("parentExists", .bool n.parentExists)]

end NodeSummary

namespace Addon

/-- Reads an add-on. -/
def decode : Decoder Addon := fun v => do
  let r ← Record.ofJson "AddonState" 4 v
  let name := r.slot 0 "name" Decode.text
  let label := r.slot 1 "label" Decode.text
  let enabled := r.slot 2 "enabled" Decode.flag
  let terms := r.slot 3 "capabilities" (Decode.optional Decode.text)
  r.check [name.fault, label.fault, enabled.fault, terms.fault]
  let name ← r.required name
  let label ← r.required label
  let enabled ← r.required enabled
  let terms ← r.optional terms
  r.close
  return { name, label, enabled, terms }

/-- Writes an add-on. -/
def encode (a : Addon) : Json :=
  Json.ofFields [("name", .string a.name), ("label", .string a.label), ("enabled", .bool a.enabled),
    ("capabilities", Json.ofText? a.terms)]

end Addon

namespace Account

/-- Reads an account. -/
def decode : Decoder Account := fun v => do
  let r ← Record.ofJson "ExternalAccount" 3 v
  let provider := r.slot 0 "provider" Decode.text
  let label := r.slot 1 "label" Decode.text
  let connected := r.slot 2 "connected" Decode.flag
  r.check [provider.fault, label.fault, connected.fault]
  let provider ← r.required provider
  let label ← r.required label
  let connected ← r.required connected
  r.close
  return { provider, label, connected }

/-- Writes an account. -/
def encode (a : Account) : Json :=
  Json.ofFields [("provider", .string a.provider), ("label", .string a.label),
    ("connected", .bool a.connected)]

end Account

namespace PageContent

/-- Reads the state of the wiki. -/
def decodeWiki : Decoder Bool := Decode.single "WikiState" "isEnabled" Decode.flag

/-- Reads the categories. -/
def decodeCategories : Decoder Categories := fun v =>
  (Decode.map Decode.text v).map Table.ofEntries

/-- Reads the content of a page. -/
def decode : Decoder PageContent := fun v => do
  let r ← Record.ofJson "PageContext" 6 v
  let node := r.slot 0 "node" NodeSummary.decode
  let addons := r.slot 1 "addons" (Decode.list Addon.decode)
  let commentLevel := r.slot 2 "commentLevel" (Decode.optional Decode.text)
  let wiki := r.slot 3 "wiki" decodeWiki
  let accounts := r.slot 4 "accounts" (Decode.list Account.decode)
  let categories := r.slot 5 "categories" decodeCategories
  r.check [node.fault, addons.fault, commentLevel.fault, wiki.fault, accounts.fault,
    categories.fault]
  let node ← r.required node
  let addons ← r.defaulted [] addons
  let commentLevel ← r.optional commentLevel
  let wikiEnabled ← r.defaulted false wiki
  let accounts ← r.defaulted [] accounts
  let categories ← r.defaulted ∅ categories
  r.close
  return { node, addons, commentLevel, wikiEnabled, accounts, categories }

/-- Writes the content of a page. -/
def encode (c : PageContent) : Json :=
  Json.ofFields [("node", c.node.encode), ("addons", Json.ofList Addon.encode c.addons),
    ("commentLevel", Json.ofText? c.commentLevel),
    ("wiki", Json.ofFields [("isEnabled", .bool c.wikiEnabled)]),
    ("accounts", Json.ofList Account.encode c.accounts),
    ("categories", Json.ofFields (c.categories.entries.map fun (key, name) => (key, .string name)))]

end PageContent

namespace Institution

/-- Reads the name of an institution from its attributes. -/
def decodeName : Decoder String := Decode.single "InstitutionAttributes" "name" Decode.text

/-- Reads the link of an institution. -/
def decodeLink : Decoder (Option String) := Decode.singleOptional "ResourceLinks" "html" Decode.text

/-- Reads an institution. -/
def decode : Decoder Institution := fun v => do
  let r ← Record.ofJson "Institution" 3 v
  let id := r.slot 0 "id" Decode.text
  let name := r.slot 1 "attributes" decodeName
  let link := r.slot 2 "links" decodeLink
  r.check [id.fault, name.fault, link.fault]
  let id ← r.required id
  let name ← r.required name
  let link ← r.defaulted none link
  r.close
  return { id, name, link }

/-- Writes an institution. -/
def encode (i : Institution) : Json :=
  Json.ofFields [("id", .string i.id), ("attributes", Json.ofFields [("name", .string i.name)]),
    ("links", Json.ofFields [("html", Json.ofText? i.link)])]

/-! ## Documents -/

/-- A document, as its data. -/
def decodeDocument {α : Type} (decode : Decoder α) : Decoder α :=
  Decode.single "Document" "data" decode

/-- The data as a document. -/
def encodeDocument (data : Json) : Json := Json.ofFields [("data", data)]

/-- Reads the institutions embedded in the document of a user. -/
def decodeOfUser : Decoder (List Institution) :=
  decodeDocument (Decode.single "EmbeddedUser" "embeds"
    (Decode.single "UserEmbeds" "institutions" (decodeDocument (Decode.list decode))))

/-- Writes the document of a user with embedded institutions. -/
def encodeOfUser (institutions : List Institution) : Json :=
  encodeDocument (Json.ofFields [("embeds", Json.ofFields
    [("institutions", encodeDocument (Json.ofList encode institutions))])])

/-- Reads the primary institution embedded in the document of a node. -/
def decodeOfNode : Decoder (Option Institution) :=
  decodeDocument (Decode.single "EmbeddedNode" "embeds"
    (Decode.single "NodeEmbeds" "primary_institution"
      (Decode.singleOptional "Document" "data" decode)))

/-- Writes the document of a node with an embedded primary institution. -/
def encodeOfNode (primary : Option Institution) : Json :=
  encodeDocument (Json.ofFields [("embeds", Json.ofFields
    [("primary_institution", encodeDocument (Json.ofOption encode primary))])])

end Institution

end SettingsConsole
