import SettingsConsole.Page.Content
import SettingsConsole.Page.Outline
import SettingsConsole.Proofs.Json.Record
import SettingsConsole.Proofs.Page.Loosened

/-!
# Decoding undoes encoding

What is written of a value is read back as the value, also after fields that say nothing were left
out and unknown ones were added, at any depth (`decodes_loosened`).  `Reads` says so of one decoder;
it is proved of the plain ones, carried over to lists, optional values and records of one field, and
from there to the types of what is fetched, field by field.
-/

namespace SettingsConsole

/-- However a written value is loosened, a decoder reads it as `a`. -/
def Reads {α : Type} (s : Schema) (decode : Decoder α) (written : Json) (a : α) : Prop :=
  ∀ w, Loosened s written w → decode w = .ok a

section Combinators

variable {α : Type} {s inner : Schema} {decode : Decoder α} {encode : α → Json} {v d : Json}
  {a : α}

/-! ## Plain values, lists and optional values -/

theorem reads_text (t : String) : Reads .data Decode.text (.string t) t := by
  intro w h
  rw [h.eq_of_data]
  rfl

theorem reads_flag (b : Bool) : Reads .data Decode.flag (.bool b) b := by
  intro w h
  rw [h.eq_of_data]
  rfl

theorem reads_optional (reads : ∀ a, Reads s decode (encode a) a) (ne : ∀ a, encode a ≠ .null)
    (o : Option α) : Reads (.optional s) (Decode.optional decode) (.ofOption encode o) o := by
  intro w h
  cases o with
  | none =>
    rw [h.eq_null_iff.2 rfl]
    rfl
  | some a =>
    rw [Decode.optional_of_ne (mt h.eq_null_iff.1 (ne a)), reads a w h.of_optional]
    rfl

theorem reads_list {as : List α} (reads : ∀ a ∈ as, Reads s decode (encode a) a) :
    Reads (.list s) (Decode.list decode) (.ofList encode as) as := by
  induction as with
  | nil =>
    intro w h
    rw [h.eq_nil]
    rfl
  | cons a as ih =>
    intro w h
    obtain ⟨first, later⟩ := List.forall_mem_cons.1 reads
    obtain ⟨x, xs, rfl, head, tail⟩ := Loosened.exists_cons h
    have rest : Decode.elements decode xs = .ok as := ih later _ tail
    show Decode.elements decode (x :: xs) = _
    simp [Decode.elements, first x head, rest, Except.map]

/-! ## Fields -/

variable {made : List (String × Json)} {name : String}

theorem Stands.gives {f : Field} {absent : Prop} (h : Stands made f v)
    (reads : Reads f.schema decode v a) (may : f.omitted? = some v → absent) :
    Gives made f.name decode a absent := by
  unfold Gives
  cases found : made.lookup f.name with
  | none => exact .inr ⟨rfl, may (h.absent found)⟩
  | some w => exact .inl (congrArg some (reads w (h.present w found)))

theorem Stands.required (h : Stands made (.required name s) v) (reads : Reads s decode v a) :
    Gives made name decode a False :=
  h.gives reads nofun

theorem Stands.optional {o : Option α} (h : Stands made (.optional name s) (.ofOption encode o))
    (reads : ∀ a, Reads s decode (encode a) a) (ne : ∀ a, encode a ≠ .null) :
    Gives made name (Decode.optional decode) o (o = none) :=
  h.gives (reads_optional reads ne o) fun omitted =>
    Json.eq_none_of_ofOption ne (Option.some.inj omitted).symm

theorem Stands.defaulted {default : α} (h : Stands made (.defaulted name s d) v)
    (reads : Reads s decode v a) (same : v = d → a = default) :
    Gives made name decode a (a = default) :=
  h.gives reads fun omitted => same (Option.some.inj omitted).symm

/-! ## Records of one field -/

theorem reads_single {record : String} (shape : s.fields? = some [.required name inner])
    (reads : Reads inner decode v a) :
    Reads s (Decode.single record name decode) (.ofFields [(name, v)]) a := by
  intro w h
  obtain ⟨made, rfl, stands⟩ := h.exists_stands shape rfl (by simp)
  have field := (List.forall₂_cons.1 stands).1.required reads
  simp [Decode.single, field.fault, field.required]

theorem reads_singleDefaulted {record : String} {default : α}
    (shape : s.fields? = some [.defaulted name inner d]) (reads : Reads inner decode v a)
    (same : v = d → a = default) :
    Reads s (Decode.singleDefaulted record name default decode) (.ofFields [(name, v)]) a := by
  intro w h
  obtain ⟨made, rfl, stands⟩ := h.exists_stands shape rfl (by simp)
  have field := (List.forall₂_cons.1 stands).1.defaulted reads same
  simp [Decode.singleDefaulted, field.fault, field.defaulted]

theorem reads_singleOptional {record : String} (shape : s.fields? = some [.optional name inner])
    (reads : ∀ a, Reads inner decode (encode a) a) (ne : ∀ a, encode a ≠ .null) (o : Option α) :
    Reads s (Decode.singleOptional record name decode) (.ofFields [(name, .ofOption encode o)])
      o := by
  intro w h
  obtain ⟨made, rfl, stands⟩ := h.exists_stands shape rfl (by simp)
  have field := (List.forall₂_cons.1 stands).1.optional reads ne
  simp [Decode.singleOptional, field.fault, field.optional]

end Combinators

/-! ## The content of a page -/

theorem NodeSummary.reads (n : NodeSummary) :
    Reads (.record .nodeSummary) decode n.encode n := by
  intro w h
  obtain ⟨made, rfl, stands⟩ := h.exists_stands rfl rfl (by decide)
  simp only [RecordType.fields, List.forall₂_cons] at stands
  obtain ⟨id, title, nodeType, isRegistration, description, category, parentExists, -⟩ := stands
  have id := id.required (reads_text _)
  have title := title.required (reads_text _)
  have nodeType := nodeType.optional reads_text Json.string_ne_null
  have isRegistration := isRegistration.defaulted (reads_flag _) Json.bool.inj
  have description := description.defaulted (reads_text _) Json.string.inj
  have category := category.optional reads_text Json.string_ne_null
  have parentExists := parentExists.defaulted (reads_flag _) Json.bool.inj
  simp [decode, id.fault, title.fault, nodeType.fault, isRegistration.fault, description.fault,
    category.fault, parentExists.fault, id.required, title.required, nodeType.optional,
    isRegistration.defaulted, description.defaulted, category.optional, parentExists.defaulted]

theorem Addon.reads (a : Addon) : Reads (.record .addonState) decode a.encode a := by
  intro w h
  obtain ⟨made, rfl, stands⟩ := h.exists_stands rfl rfl (by decide)
  simp only [RecordType.fields, List.forall₂_cons] at stands
  obtain ⟨name, label, enabled, terms, -⟩ := stands
  have name := name.required (reads_text _)
  have label := label.required (reads_text _)
  have enabled := enabled.required (reads_flag _)
  have terms := terms.optional reads_text Json.string_ne_null
  simp [decode, name.fault, label.fault, enabled.fault, terms.fault, name.required, label.required,
    enabled.required, terms.optional]

theorem Account.reads (a : Account) : Reads (.record .externalAccount) decode a.encode a := by
  intro w h
  obtain ⟨made, rfl, stands⟩ := h.exists_stands rfl rfl (by decide)
  simp only [RecordType.fields, List.forall₂_cons] at stands
  obtain ⟨provider, label, connected, -⟩ := stands
  have provider := provider.required (reads_text _)
  have label := label.required (reads_text _)
  have connected := connected.required (reads_flag _)
  simp [decode, provider.fault, label.fault, connected.fault, provider.required, label.required,
    connected.required]

/-- Categories are written as they are. -/
theorem ofFields_categories (categories : Categories) :
    Json.ofFields (categories.entries.map fun (key, name) => (key, .string name)) =
      .object (categories.entries.map fun (key, name) => (key, .string name)) := by
  refine Json.Ascending.ofFields ?_
  unfold Json.Ascending
  rw [List.map_map]
  exact List.pairwise_map.2 categories.ordered

theorem entries_text (entries : List (String × String)) :
    Decode.entries Decode.text (entries.map fun (key, name) => (key, .string name)) =
      .ok entries := by
  induction entries with
  | nil => rfl
  | cons first rest ih => simp [Decode.entries, Decode.text, ih, Except.map]

theorem reads_categories (categories : Categories) :
    Reads .data PageContent.decodeCategories
      (.object (categories.entries.map fun (key, name) => (key, .string name))) categories := by
  intro w h
  rw [h.eq_of_data]
  show (Decode.entries Decode.text _).map Table.ofEntries = _
  rw [entries_text]
  exact congrArg Except.ok categories.ofEntries_entries

theorem PageContent.reads (c : PageContent) :
    Reads (.record .pageContext) decode c.encode c := by
  intro w h
  obtain ⟨made, rfl, stands⟩ := h.exists_stands rfl rfl (by decide)
  simp only [RecordType.fields, List.forall₂_cons] at stands
  obtain ⟨node, addons, commentLevel, wiki, accounts, categories, -⟩ := stands
  rw [ofFields_categories] at categories
  have reads_wiki : Reads (.record .wikiState) decodeWiki
    (.ofFields [("isEnabled", .bool c.wikiEnabled)]) c.wikiEnabled :=
      reads_single rfl (reads_flag _)
  have node := node.required c.node.reads
  have addons := addons.defaulted (reads_list fun a _ => a.reads) Json.ofList_eq_nil
  have commentLevel := commentLevel.optional reads_text Json.string_ne_null
  have wiki := wiki.defaulted reads_wiki fun same => Json.bool.inj (Json.ofFields_single_inj same)
  have accounts := accounts.defaulted (reads_list fun a _ => a.reads) Json.ofList_eq_nil
  have categories := categories.defaulted (reads_categories _) fun none_written =>
    Table.ext (u := ∅) (List.map_eq_nil_iff.1 (Json.object.inj none_written))
  simp [decode, node.fault, addons.fault, commentLevel.fault, wiki.fault, accounts.fault,
    categories.fault, node.required, addons.defaulted, commentLevel.optional, wiki.defaulted,
    accounts.defaulted, categories.defaulted]

/-! ## Institutions -/

theorem Institution.reads (i : Institution) : Reads (.record .institution) decode i.encode i := by
  intro w h
  obtain ⟨made, rfl, stands⟩ := h.exists_stands rfl rfl (by decide)
  simp only [RecordType.fields, List.forall₂_cons] at stands
  obtain ⟨id, name, link, -⟩ := stands
  have reads_name : Reads (.record .institutionAttributes) decodeName
    (.ofFields [("name", .string i.name)]) i.name := reads_single rfl (reads_text _)
  have reads_link : Reads (.record .resourceLinks) decodeLink
    (.ofFields [("html", .ofText? i.link)]) i.link :=
      reads_singleOptional rfl reads_text Json.string_ne_null _
  have id := id.required (reads_text _)
  have name := name.required reads_name
  have unlinked (same : Json.ofFields [("html", Json.ofText? i.link)] =
      Json.ofFields [("html", .null)]) : i.link = none := by
    have html : Json.ofOption .string i.link = .null := Json.ofFields_single_inj same
    exact Json.eq_none_of_ofOption Json.string_ne_null html
  have link := link.defaulted reads_link unlinked
  simp [decode, id.fault, name.fault, link.fault, id.required, name.required, link.defaulted]

theorem Institution.reads_ofUser (institutions : List Institution) :
    Reads (.document (.record .embeddedUser)) decodeOfUser (encodeOfUser institutions)
      institutions :=
  reads_single rfl (reads_single rfl (reads_single rfl (reads_single rfl
    (reads_list fun i _ => i.reads))))

theorem Institution.reads_ofNode (primary : Option Institution) :
    Reads (.document (.record .embeddedNode)) decodeOfNode (encodeOfNode primary) primary :=
  reads_single rfl (reads_single rfl (reads_single rfl
    (reads_singleOptional rfl Institution.reads (fun _ => Json.ofFields_ne_null _) _)))

/-! ## Outlines -/

theorem Subscription.reads (s : Subscription) :
    Reads (.record .subscriptionEvent) decode s.encode s := by
  intro w h
  obtain ⟨made, rfl, stands⟩ := h.exists_stands rfl rfl (by decide)
  simp only [RecordType.fields, List.forall₂_cons] at stands
  obtain ⟨title, delivery, -⟩ := stands
  have title := title.required (reads_text _)
  have delivery := delivery.optional reads_text Json.string_ne_null
  simp [decode, title.fault, delivery.fault, title.required, delivery.optional]

theorem WikiPermission.reads (permission : String) :
    Reads (.record .wikiPermission) decode (encode permission) permission :=
  reads_single rfl (reads_text _)

namespace Outline

variable {δ : Type} (f : Format δ)

theorem decodeUnder_eq (fields : List (String × Json)) :
    decodeUnder f fields = (fields.lookup "children").map (decodeForest f) := by
  induction fields with
  | nil => rfl
  | cons field rest ih =>
    obtain ⟨key, v⟩ := field
    unfold decodeUnder
    split
    next it => rw [it, Json.lookup_cons_self, Option.map_some]
    next other => rw [Json.lookup_cons_ne (Ne.symm other), ih]

theorem decodeEach_eq (items : List Json) :
    decodeEach f items = Decode.elements (decode f) items := by
  induction items with
  | nil => rfl
  | cons v rest ih =>
    unfold decodeEach Decode.elements
    rw [ih]
    cases decode f v <;> rfl

theorem decodeForest_eq : decodeForest f = Decode.list (decode f) := by
  funext v
  cases v with
  | list items => exact decodeEach_eq f items
  | _ => rfl

theorem encodeEach_eq (forest : List (Outline δ)) :
    encodeEach f forest = forest.map (encode f) := by
  induction forest with
  | nil => rfl
  | cons entry rest ih => rw [encodeEach, ih, List.map_cons]

theorem reads_target (title : String) :
    Reads (.record .treeTarget) decodeTarget (.ofFields [("title", .string title)]) title :=
  reads_singleDefaulted rfl (reads_text _) Json.string.inj

theorem reads {s detail : Schema}
    (shape : s.fields? = some [.optional "node" (.record .treeTarget),
      .optional f.detailField detail, .defaulted "children" (.list s) (.list [])])
    (distinct : ["node", f.detailField, "children"].Nodup)
    (reads_detail : ∀ d, Reads detail f.decodeDetail (f.encodeDetail d) d)
    (ne : ∀ d, f.encodeDetail d ≠ .null) (entry : Outline δ) :
    Reads s (decode f) (encode f entry) entry := by
  obtain ⟨target, d, below⟩ := entry
  intro w h
  rw [encode, encodeEach_eq] at h
  obtain ⟨made, rfl, stands⟩ := h.exists_stands shape rfl distinct
  simp only [List.forall₂_cons] at stands
  obtain ⟨node, detail, children, -⟩ := stands
  have node := node.optional reads_target fun _ => Json.ofFields_ne_null _
  have detail := detail.optional reads_detail ne
  -- the recursion is on the entry: the children it is used at are entries below this one
  have children := children.defaulted
    (reads_list fun child _ => reads shape distinct reads_detail ne child) Json.ofList_eq_nil
  have slot : (⟨2, "children", (made.lookup "children").map (Decode.list (decode f))⟩ : Slot _) =
    Record.slot ⟨f.record, 3, .named made⟩ 2 "children" (Decode.list (decode f)) := rfl
  show ofRecord f ⟨f.record, 3, .named made⟩ (decodeUnder f made) = _
  rw [decodeUnder_eq, decodeForest_eq]
  simp [ofRecord, slot, node.fault, detail.fault, children.fault, node.optional, detail.optional,
    children.defaulted]

theorem reads_subscriptions (forest : List (Outline Subscription)) :
    Reads (.list (.record .subscriptionNode)) (decodeForest Subscription.format)
      (encodeForest Subscription.format forest) forest := by
  rw [decodeForest_eq, encodeForest, encodeEach_eq]
  exact reads_list fun entry _ => reads Subscription.format rfl (by decide) Subscription.reads
    (fun _ => Json.ofFields_ne_null _) entry

theorem reads_wikiPermissions (forest : List (Outline String)) :
    Reads (.list (.record .wikiSettingsNode)) (decodeForest WikiPermission.format)
      (encodeForest WikiPermission.format forest) forest := by
  rw [decodeForest_eq, encodeForest, encodeEach_eq]
  exact reads_list fun entry _ => reads WikiPermission.format rfl (by decide) WikiPermission.reads
    (fun _ => Json.ofFields_ne_null _) entry

end Outline

/-- Whatever is fetched is read back from what is written of it, and also after unknown fields were
added to records in it and fields that say nothing left out, at any depth.  The categories are
data. -/
theorem decodes_loosened :
    (∀ (c : PageContent) (w : Json),
      Loosened (.record .pageContext) c.encode w → PageContent.decode w = .ok c) ∧
    (∀ (forest : List (Outline Subscription)) (w : Json),
      Loosened (.list (.record .subscriptionNode))
        (Outline.encodeForest Subscription.format forest) w →
      Outline.decodeForest Subscription.format w = .ok forest) ∧
    (∀ (forest : List (Outline String)) (w : Json),
      Loosened (.list (.record .wikiSettingsNode))
        (Outline.encodeForest WikiPermission.format forest) w →
      Outline.decodeForest WikiPermission.format w = .ok forest) ∧
    (∀ (institutions : List Institution) (w : Json),
      Loosened (.document (.record .embeddedUser)) (Institution.encodeOfUser institutions) w →
      Institution.decodeOfUser w = .ok institutions) ∧
    ∀ (primary : Option Institution) (w : Json),
      Loosened (.document (.record .embeddedNode)) (Institution.encodeOfNode primary) w →
      Institution.decodeOfNode w = .ok primary :=
  ⟨PageContent.reads, Outline.reads_subscriptions, Outline.reads_wikiPermissions,
    Institution.reads_ofUser, Institution.reads_ofNode⟩

/-- A page without what says nothing and with an unknown field of its node, an event without what
says nothing below a project, and the rest as it was written. -/
theorem decodes_loosened_demo :
    let page : PageContent := ⟨⟨"abc12", "Demo", none, false, "", none, false⟩, [], some "private",
      false, [], .ofEntries [("data", "Data"), ("project", "Project")]⟩
    let node : Json := .object [("id", .string "abc12"), ("isPublic", .bool true),
      ("title", .string "Demo")]
    let loosePage : Json := .object [
      ("categories", .object [("data", .string "Data"), ("project", .string "Project")]),
      ("commentLevel", .string "private"), ("node", node)]
    let event : Outline Subscription := .node none (some ⟨"comments", none⟩) []
    let looseEvent : Json := .object [("event", .object [("notificationType", .null),
      ("title", .string "comments")])]
    let events : List (Outline Subscription) := [.node (some "Demo") none [event]]
    let looseEvents : Json := .list [.object [("children", .list [looseEvent]),
      ("node", .object [("title", .string "Demo")])]]
    let permissions : List (Outline String) := [.node (some "Demo") (some "public") []]
    let institutions : List Institution := [⟨"cos", "COS", none⟩]
    PageContent.decode loosePage = .ok page ∧
      Outline.decodeForest Subscription.format looseEvents = .ok events ∧
      Outline.decodeForest WikiPermission.format
        (Outline.encodeForest WikiPermission.format permissions) = .ok permissions ∧
      Institution.decodeOfUser (Institution.encodeOfUser institutions) = .ok institutions ∧
      Institution.decodeOfNode (Institution.encodeOfNode none) = .ok none := by
  intro page node loosePage event looseEvent events looseEvents permissions institutions
  obtain ⟨readPage, readEvents, readPermissions, readUser, readNode⟩ := decodes_loosened
  have looseNode : Loosened (.record .nodeSummary) page.node.encode node :=
    Loosened.same
      |>.leaveOut rfl "nodeType" (by decide)
      |>.leaveOut rfl "isRegistration" (by decide)
      |>.leaveOut rfl "description" (by decide)
      |>.leaveOut rfl "category" (by decide)
      |>.leaveOut rfl "parentExists" (by decide)
      |>.add rfl "isPublic" (by decide) (.bool true)
  have whole : Loosened (.record .pageContext) page.encode loosePage :=
    Loosened.same
      |>.change rfl (.required "node" (.record .nodeSummary)) (.head _) (by decide) rfl looseNode
      |>.leaveOut rfl "addons" (by decide)
      |>.leaveOut rfl "wiki" (by decide)
      |>.leaveOut rfl "accounts" (by decide)
  have below : Loosened (.list (.record .subscriptionNode))
      (.list [Outline.encode Subscription.format event]) (.list [looseEvent]) :=
    .cons (Loosened.same
      |>.leaveOut rfl "node" (by decide)
      |>.leaveOut rfl "children" (by decide)) .same
  have tree : Loosened (.list (.record .subscriptionNode))
      (Outline.encodeForest Subscription.format events) looseEvents :=
    .cons (Loosened.same
      |>.change rfl (.defaulted "children" (.list (.record .subscriptionNode)) (.list []))
        (.tail _ (.tail _ (.head _))) (by decide) rfl below
      |>.leaveOut rfl "event" (by decide)) .same
  exact ⟨readPage page loosePage whole, readEvents events looseEvents tree,
    readPermissions permissions _ .same, readUser institutions _ .same, readNode none _ .same⟩

end SettingsConsole
