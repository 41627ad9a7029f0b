import Mathlib.Data.List.DropRight
import Mathlib.Data.Nat.Digits.Defs
import Mathlib.Tactic.Positivity
import Mathlib.Tactic.Ring
import SettingsConsole.Config.Load

/-!
# Loading a configuration

A configuration is read from variables each of which is not set, no text, or a text.  There is one
exactly if no variable is in the way, and otherwise the first that is in the way is named, whatever
the others are (`Config.failure?_load`).  What is loaded is described by the values of the variables
alone (`Config.load_eq_ok_iff`).  The addresses are brought to a normal form: loading again with
what was loaded gives the same configuration (`Config.loads_exact_and_normal`).
-/

namespace SettingsConsole

/-! ## Variables -/

/-- Whether a variable is set to a text. -/
def Environment.Gives (e : Environment) (name text : String) : Prop :=
  e.bindings.lookup name = some (.text text)

/-- Whether a value is what a variable gives, or the default if it gives no text. -/
def Environment.GivesOr (e : Environment) (name default value : String) : Prop :=
  (∀ text, e.Gives name text → value = text) ∧ ((∀ text, ¬ e.Gives name text) → value = default)

namespace Environment

variable {e : Environment} {name other text : String}

theorem read_eq_ok_iff : e.read name = .ok text ↔ e.Gives name text := by
  unfold read Gives
  cases e.bindings.lookup name with
  | none => simp
  | some value => cases value <;> simp

theorem read?_eq_some_iff : e.read? name = some text ↔ e.Gives name text := by
  rw [← read_eq_ok_iff]
  unfold read?
  cases e.read name <;> simp [Except.toOption]

theorem read?_eq_none_iff : e.read? name = none ↔ ∀ text, ¬ e.Gives name text := by
  simp only [← read?_eq_some_iff, Option.eq_none_iff_forall_ne_some, ne_eq]

theorem gives_iff_of_read? (read : e.read? name = some text) :
    e.Gives name other ↔ text = other := by
  rw [← read?_eq_some_iff, read, Option.some.injEq]

theorem gives_set_self_iff : (e.set name text).Gives name other ↔ text = other := by
  rw [← read_eq_ok_iff, read_set_self, Except.ok.injEq]

theorem gives_set_iff {changed : String} (apart : name ≠ changed) :
    (e.set changed other).Gives name text ↔ e.Gives name text := by
  rw [← read_eq_ok_iff, ← read_eq_ok_iff, read_set_of_ne e apart]

theorem getD_read?_eq_iff {default value : String} :
    (e.read? name).getD default = value ↔ e.GivesOr name default value := by
  unfold GivesOr
  cases read : e.read? name with
  | none => simp [read?_eq_none_iff.1 read, eq_comm]
  | some given => simp [gives_iff_of_read? read, eq_comm]

end Environment

/-! ## Whole numbers -/

/-- The number that decimal digits stand for. -/
def decimalValue (digits : List Char) : Nat :=
  Nat.ofDigits 10 (digits.reverse.map fun c => c.toNat - 48)

/-- Whether a text is a number below `2 ^ 64` in decimal digits, with at most one plus sign. -/
def IsWhole (text : String) (n : Nat) : Prop :=
  ∃ digits, (text.toList = digits ∨ text.toList = '+' :: digits) ∧ digits ≠ [] ∧
    (∀ c ∈ digits, c.isDigit) ∧ n = decimalValue digits ∧ n < 2 ^ 64

/-- The digit in front is worth as much as after what was read before it. -/
theorem decimalValue_cons (n : Nat) (c : Char) (digits : List Char) :
    n * 10 ^ (c :: digits).length + decimalValue (c :: digits) =
      (n * 10 + (c.toNat - 48)) * 10 ^ digits.length + decimalValue digits := by
  unfold decimalValue
  rw [List.length_cons, List.reverse_cons, List.map_append, Nat.ofDigits_append]
  simp
  ring

/-- Digits are read as the number they stand for, if it is below the limit. -/
theorem wholeOfDigits_eq_ok_iff {limit n m : Nat} (below : n < limit) (cs : List Char) :
    wholeOfDigits limit n cs = .ok m ↔
      (∀ c ∈ cs, c.isDigit) ∧ m = n * 10 ^ cs.length + decimalValue cs ∧ m < limit := by
  induction cs generalizing n with
  | nil =>
    simp only [wholeOfDigits, decimalValue, Except.ok.injEq]
    constructor
    · rintro rfl
      simpa using below
    · rintro ⟨-, rfl, -⟩
      simp
  | cons c rest ih =>
    rw [decimalValue_cons, List.forall_mem_cons]
    by_cases digit : c.isDigit
    · by_cases fits : n * 10 + (c.toNat - 48) < limit
      · rw [wholeOfDigits, if_pos digit]
        simp only [if_pos fits, ih fits, digit, true_and]
      · simp only [wholeOfDigits, if_pos digit, if_neg fits, reduceCtorEq, false_iff]
        rintro ⟨-, rfl, inside⟩
        -- more digits only make a number larger
        have grown : n * 10 + (c.toNat - 48) ≤ (n * 10 + (c.toNat - 48)) * 10 ^ rest.length :=
          Nat.le_mul_of_pos_right _ (by positivity)
        omega
    · simp [wholeOfDigits, digit]

theorem readWhole_eq_ok_iff {text : String} {n : Nat} :
    readWhole text = .ok n ↔ IsWhole text n := by
  have unsigned : ∀ cs, wholeOfDigits (Nat.pow 2 64) 0 cs = .ok n ↔
      (∀ c ∈ cs, c.isDigit) ∧ n = decimalValue cs ∧ n < 2 ^ 64 := fun cs => by
    rw [wholeOfDigits_eq_ok_iff (by decide), Nat.zero_mul, Nat.zero_add]
    rfl
  unfold readWhole IsWhole
  split
  case h_1 empty => simp [empty]
  case h_2 sign =>
    simp only [sign, reduceCtorEq, false_iff]
    rintro ⟨digits, rfl | signed, given, decimal, -⟩
    · simp at decimal
    · simp_all
  case h_3 rest more signed =>
    rw [unsigned, signed]
    constructor
    · intro whole
      exact ⟨rest, .inr rfl, fun none => more (by rw [none]), whole⟩
    · rintro ⟨digits, rfl | same, -, whole⟩
      · simp at whole
      · cases same
        exact whole
  case h_4 given _ no_sign =>
    rw [unsigned]
    constructor
    · intro whole
      exact ⟨_, .inl rfl, given, whole⟩
    · rintro ⟨digits, rfl | signed, -, whole⟩
      · exact whole
      · exact absurd signed (no_sign digits)

namespace Config

/-! ## Results -/

section Results

variable {ε ε' α β : Type}

theorem bind_eq_ok_iff {x : Except ε α} {f : α → Except ε β} {b : β} :
    (x >>= f) = .ok b ↔ ∃ a, x = .ok a ∧ f a = .ok b := by
  cases x <;> simp [bind, Except.bind]

theorem mapError_eq_ok_iff {x : Except ε α} {f : ε → ε'} {a : α} :
    x.mapError f = .ok a ↔ x = .ok a := by
  cases x <;> simp [Except.mapError]

theorem mapError_eq_error_iff {x : Except ε α} {f : ε → ε'} {b : ε'} :
    x.mapError f = .error b ↔ ∃ cause, x = .error cause ∧ b = f cause := by
  cases x <;> simp [Except.mapError, eq_comm]

/-- The error of a computation. -/
def failure? : Except Error α → Option Error
  | .error err => some err
  | .ok _ => none

theorem failure?_eq_some_iff {x : Except Error α} {err : Error} :
    failure? x = some err ↔ x = .error err := by
  cases x <;> simp [failure?]

theorem failure?_eq_none_iff {x : Except Error α} :
    failure? x = none ↔ ∃ a, x = .ok a := by
  cases x <;> simp [failure?]

end Results

/-! ## Normal forms -/

/-- So many slashes. -/
def slashes (n : Nat) : String := String.ofList (List.replicate n '/')

theorem toList_dropSlashes (s : String) :
    (dropSlashes s).toList = s.toList.rdropWhile (· = '/') := by
  simp [dropSlashes, List.rdropWhile]

theorem getLast?_dropSlashes (s : String) : (dropSlashes s).toList.getLast? ≠ some '/' := by
  rw [toList_dropSlashes]
  intro last
  obtain ⟨left, is_last⟩ := List.mem_getLast?_eq_getLast last
  exact List.rdropWhile_last_not _ _ left (decide_eq_true is_last.symm)

theorem exists_slashes (s : String) : ∃ n, s = dropSlashes s ++ slashes n := by
  refine ⟨(s.toList.rtakeWhile (· = '/')).length, String.toList_inj.1 ?_⟩
  have only_slashes : s.toList.rtakeWhile (· = '/') =
      List.replicate (s.toList.rtakeWhile (· = '/')).length '/' :=
    List.eq_replicate_length.2 fun c taken => by simpa using List.mem_rtakeWhile_imp taken
  rw [String.toList_append, toList_dropSlashes, slashes, String.toList_ofList, ← only_slashes,
    List.rdropWhile_append_rtakeWhile]

theorem dropSlashes_append_slashes (s : String) (n : Nat) :
    dropSlashes (s ++ slashes n) = dropSlashes s := by
  apply String.toList_inj.1
  simp only [toList_dropSlashes, String.toList_append, slashes, String.toList_ofList]
  induction n with
  | zero => rw [List.replicate_zero, List.append_nil]
  | succ n ih =>
    rw [List.replicate_succ', ← List.append_assoc, List.rdropWhile_concat_pos _ _ _ (by simp), ih]

theorem dropSlashes_of_open {s : String} (is_open : s.toList.getLast? ≠ some '/') :
    dropSlashes s = s := by
  apply String.toList_inj.1
  rw [toList_dropSlashes, List.rdropWhile_eq_self_iff]
  intro left is_slash
  exact is_open (by rw [List.getLast?_eq_some_getLast left, of_decide_eq_true is_slash])

/-- What is left of a text without the slashes at its end. -/
theorem dropSlashes_eq_iff {s t : String} :
    dropSlashes s = t ↔ (∃ n, s = t ++ slashes n) ∧ t.toList.getLast? ≠ some '/' := by
  constructor
  · rintro rfl
    exact ⟨exists_slashes s, getLast?_dropSlashes s⟩
  · rintro ⟨⟨n, rfl⟩, is_open⟩
    rw [dropSlashes_append_slashes, dropSlashes_of_open is_open]

/-- What a text becomes that has to end in a slash. -/
theorem endInSlash_eq_iff {s t : String} :
    endInSlash s = t ↔ t.toList.getLast? = some '/' ∧
      (t = s ∨ s.toList.getLast? ≠ some '/' ∧ t = s ++ "/") := by
  unfold endInSlash
  split
  case isTrue closed =>
    constructor
    · rintro rfl
      exact ⟨closed, .inl rfl⟩
    · rintro ⟨-, rfl | ⟨is_open, -⟩⟩
      · rfl
      · exact absurd closed is_open
  case isFalse is_open =>
    constructor
    · rintro rfl
      exact ⟨by simp, .inr ⟨is_open, rfl⟩⟩
    · rintro ⟨closed, rfl | ⟨-, rfl⟩⟩
      · exact absurd closed is_open
      · rfl

/-! ## What is in the way -/

/-- The variable that an error names. -/
def Error.name : Error → String
  | .variable name _ => name
  | .timeout name _ => name

/-- What an error says about a variable. -/
def complaint (name : String) : String :=
  if name = timeoutVariable then " must be a whole number of seconds: " else " must be set: "

/-- The variables that can be in the way, in the order in which they are read. -/
def checkOrder : List String :=
  [urlVariable, tokenVariable, timeoutVariable, nodeVariable, userVariable]

/-- Whether a variable is not in the way: the timeout is a whole number if it is a text, and another
is a text. -/
def Usable (e : Environment) (name : String) : Prop :=
  if name = timeoutVariable then ∀ text, e.Gives name text → ∃ n, IsWhole text n
  else ∃ text, e.Gives name text

/-- What is wrong with a variable. -/
def fault? (e : Environment) (name : String) : Option Error :=
  if name = timeoutVariable then failure? (readTimeout e) else failure? (requireVariable e name)

/-- Whether a number is the timeout: the one that the variable gives, or the default. -/
def IsTimeout (e : Environment) (n : Nat) : Prop :=
  (∀ text, e.Gives timeoutVariable text → IsWhole text n) ∧
    ((∀ text, ¬ e.Gives timeoutVariable text) → n = 10)

variable {e : Environment} {name text : String} {n : Nat} {c : Config} {err : Error}

theorem requireVariable_eq_ok_iff : requireVariable e name = .ok text ↔ e.Gives name text := by
  rw [requireVariable, mapError_eq_ok_iff, Environment.read_eq_ok_iff]

theorem readTimeout_eq_ok_iff : readTimeout e = .ok n ↔ IsTimeout e n := by
  unfold readTimeout IsTimeout
  cases read : e.read? timeoutVariable with
  | none => simp [Environment.read?_eq_none_iff.1 read, defaultTimeout, eq_comm]
  | some text =>
    simp [mapError_eq_ok_iff, readWhole_eq_ok_iff, Environment.gives_iff_of_read? read]

/-- An error names the variable it is about and says what is wrong with it. -/
theorem message_of_fault? (failed : fault? e name = some err) :
    err.name = name ∧ ∃ cause, err.message = name ++ complaint name ++ cause := by
  unfold fault? at failed
  unfold complaint
  split at failed
  case isTrue of_timeout =>
    have failed := failure?_eq_some_iff.1 failed
    unfold readTimeout at failed
    split at failed
    · obtain ⟨cause, -, rfl⟩ := mapError_eq_error_iff.1 failed
      exact ⟨of_timeout.symm, cause.message, by rw [if_pos of_timeout, of_timeout]; rfl⟩
    · cases failed
  case isFalse of_other =>
    obtain ⟨cause, -, rfl⟩ := mapError_eq_error_iff.1 (failure?_eq_some_iff.1 failed)
    exact ⟨rfl, cause.message, by rw [if_neg of_other]; rfl⟩

theorem exists_isTimeout_iff :
    (∃ n, IsTimeout e n) ↔ ∀ text, e.Gives timeoutVariable text → ∃ n, IsWhole text n := by
  unfold IsTimeout
  cases read : e.read? timeoutVariable with
  | none => simp [Environment.read?_eq_none_iff.1 read]
  | some text => simp [Environment.gives_iff_of_read? read]

theorem fault?_eq_none_iff : fault? e name = none ↔ Usable e name := by
  unfold fault? Usable
  split
  case isTrue of_timeout =>
    rw [failure?_eq_none_iff, of_timeout, ← exists_isTimeout_iff]
    simp only [readTimeout_eq_ok_iff]
  case isFalse => simp only [failure?_eq_none_iff, requireVariable_eq_ok_iff]

theorem fault?_of_ne (other : name ≠ timeoutVariable) :
    fault? e name = failure? (requireVariable e name) := if_neg other

theorem fault?_timeout : fault? e timeoutVariable = failure? (readTimeout e) := if_pos rfl

/-- The first variable in the order that is in the way decides on the error. -/
theorem failure?_load (e : Environment) : failure? (load e) = checkOrder.findSome? (fault? e) := by
  have url : fault? e urlVariable = _ := fault?_of_ne (by decide)
  have token : fault? e tokenVariable = _ := fault?_of_ne (by decide)
  have node : fault? e nodeVariable = _ := fault?_of_ne (by decide)
  have user : fault? e userVariable = _ := fault?_of_ne (by decide)
  unfold load checkOrder
  simp only [List.findSome?_cons, url, token, fault?_timeout, node, user]
  cases requireVariable e urlVariable with
  | error => rfl
  | ok =>
    cases requireVariable e tokenVariable with
    | error => rfl
    | ok =>
      cases readTimeout e with
      | error => rfl
      | ok =>
        cases requireVariable e nodeVariable with
        | error => rfl
        | ok => cases requireVariable e userVariable <;> rfl

/-! ## What is loaded -/

/-- What the configuration of an environment is.  The root of the service is the given one without
the slashes at its end, and the other addresses start with a text that ends in a slash. -/
structure Describes (e : Environment) (c : Config) : Prop where
  url : ∃ n, e.Gives urlVariable (c.service.url ++ slashes n)
  url_open : c.service.url.toList.getLast? ≠ some '/'
  v2_closed : c.service.v2.toList.getLast? = some '/'
  v2_given : ∀ text, e.Gives v2Variable text →
    c.service.v2 = text ∨ text.toList.getLast? ≠ some '/' ∧ c.service.v2 = text ++ "/"
  v2_default : (∀ text, ¬ e.Gives v2Variable text) → c.service.v2 = c.service.url ++ "/v2/"
  token : e.Gives tokenVariable c.service.token
  timeout : IsTimeout e c.service.timeoutSecs
  node : e.Gives nodeVariable c.scope.node
  user : e.Gives userVariable c.scope.user
  support : e.GivesOr supportVariable "support@osf.io" c.scope.support
  log : ∀ path, c.logPath = some path ↔ e.Gives logVariable path

/-- The configuration of the values that were read. -/
def assembled (e : Environment) (url token : String) (timeoutSecs : Nat) (node user : String) :
    Config :=
  let root := dropSlashes url
  { service :=
      { url := root, v2 := endInSlash ((e.read? v2Variable).getD (root ++ "/v2/")), token
        timeoutSecs }
    scope := { node, user, support := (e.read? supportVariable).getD defaultSupport }
    logPath := e.read? logVariable }

theorem load_eq_ok_iff_assembled :
    load e = .ok c ↔ ∃ url, e.Gives urlVariable url ∧ ∃ token, e.Gives tokenVariable token ∧
      ∃ timeoutSecs, IsTimeout e timeoutSecs ∧ ∃ node, e.Gives nodeVariable node ∧
        ∃ user, e.Gives userVariable user ∧ assembled e url token timeoutSecs node user = c := by
  simp only [load, bind_eq_ok_iff, requireVariable_eq_ok_iff, readTimeout_eq_ok_iff, pure,
    Except.pure, Except.ok.injEq, assembled]

theorem v2_eq_iff {url v2 : String} :
    endInSlash ((e.read? v2Variable).getD (url ++ "/v2/")) = v2 ↔
      v2.toList.getLast? = some '/' ∧
        (∀ text, e.Gives v2Variable text →
          v2 = text ∨ text.toList.getLast? ≠ some '/' ∧ v2 = text ++ "/") ∧
        ((∀ text, ¬ e.Gives v2Variable text) → v2 = url ++ "/v2/") := by
  cases read : e.read? v2Variable with
  | none =>
    have closed : (url ++ "/v2/").toList.getLast? = some '/' := by simp
    simp only [Option.getD_none, endInSlash_eq_iff, Environment.read?_eq_none_iff.1 read, closed]
    simp
  | some text =>
    simp [endInSlash_eq_iff, Environment.gives_iff_of_read? read]

theorem load_eq_ok_iff : load e = .ok c ↔ Describes e c := by
  rw [load_eq_ok_iff_assembled]
  constructor
  · rintro ⟨url, url_given, token, token_given, secs, timeout, node, node_given, user, user_given,
      rfl⟩
    obtain ⟨⟨n, split⟩, is_open⟩ := dropSlashes_eq_iff.1 (rfl : dropSlashes url = _)
    obtain ⟨closed, given, default⟩ := v2_eq_iff.1 (rfl : endInSlash _ = _)
    exact {
      url := ⟨n, split ▸ url_given⟩
      url_open := is_open
      v2_closed := closed
      v2_given := given
      v2_default := default
      token := token_given
      timeout := timeout
      node := node_given
      user := user_given
      support := Environment.getD_read?_eq_iff.1 rfl
      log := fun path => Environment.read?_eq_some_iff }
  · intro d
    obtain ⟨n, url_given⟩ := d.url
    refine ⟨_, url_given, _, d.token, _, d.timeout, _, d.node, _, d.user, ?_⟩
    have url : dropSlashes (c.service.url ++ slashes n) = c.service.url :=
      dropSlashes_eq_iff.2 ⟨⟨n, rfl⟩, d.url_open⟩
    have v2 := v2_eq_iff.2 ⟨d.v2_closed, d.v2_given, d.v2_default⟩
    have support : (e.read? supportVariable).getD defaultSupport = c.scope.support :=
      Environment.getD_read?_eq_iff.2 d.support
    have log : e.read? logVariable = c.logPath :=
      Option.ext fun path => by rw [Environment.read?_eq_some_iff, d.log]
    simp only [assembled, url, v2, support, log]

theorem load_set_slashes {url : String} (given : e.Gives urlVariable url) (n : Nat) :
    load (e.set urlVariable (url ++ slashes n)) = load e := by
  have others : ∀ {name}, name ≠ urlVariable →
      (e.set urlVariable (url ++ slashes n)).read name = e.read name :=
    fun apart => Environment.read_set_of_ne e apart _
  unfold load readTimeout requireVariable Environment.read?
  simp (disch := decide) only [others, Environment.read_set_self,
    Environment.read_eq_ok_iff.2 given, Except.mapError, bind, Except.bind,
    dropSlashes_append_slashes]

theorem load_set_loaded (loaded : load e = .ok c) :
    load ((e.set urlVariable c.service.url).set v2Variable c.service.v2) = .ok c := by
  have d := load_eq_ok_iff.1 loaded
  have others : ∀ {name text}, name ≠ urlVariable → name ≠ v2Variable →
      (((e.set urlVariable c.service.url).set v2Variable c.service.v2).Gives name text ↔
        e.Gives name text) := fun apart_url apart_v2 => by
    rw [Environment.gives_set_iff apart_v2, Environment.gives_set_iff apart_url]
  have url : c.service.url = c.service.url ++ slashes 0 := by simp [slashes]
  exact load_eq_ok_iff.2 { d with
    url := ⟨0, (Environment.gives_set_iff (by decide)).2 (Environment.gives_set_self_iff.2 url)⟩
    v2_given := fun text given => .inl (Environment.gives_set_self_iff.1 given)
    v2_default := fun absent => absurd (Environment.gives_set_self_iff.2 rfl) (absent _)
    token := (others (by decide) (by decide)).2 d.token
    timeout := by simpa (disch := decide) only [IsTimeout, others] using d.timeout
    node := (others (by decide) (by decide)).2 d.node
    user := (others (by decide) (by decide)).2 d.user
    support := by
      simpa (disch := decide) only [Environment.GivesOr, others] using d.support
    log := by simpa (disch := decide) only [others] using d.log }

/-- There is a configuration exactly if no variable is in the way, and otherwise the first that is
in the way is named, whatever the others are.  Slashes at the end of the root of the service make no
difference, and loading with the addresses that were loaded gives the same configuration. -/
theorem loads_exact_and_normal (e : Environment) :
    ((∃ c, load e = .ok c) ↔ ∀ name ∈ checkOrder, Usable e name) ∧
      (∀ err, load e = .error err → ∃ before after cause,
        checkOrder = before ++ err.name :: after ∧ (∀ name ∈ before, Usable e name) ∧
          ¬ Usable e err.name ∧ err.message = err.name ++ complaint err.name ++ cause) ∧
      (∀ c, load e = .ok c ↔ Describes e c) ∧
      (∀ url n, e.Gives urlVariable url → load (e.set urlVariable (url ++ slashes n)) = load e) ∧
      ∀ c, load e = .ok c →
        load ((e.set urlVariable c.service.url).set v2Variable c.service.v2) = .ok c := by
  refine ⟨?_, ?_, fun c => load_eq_ok_iff, fun url n given => load_set_slashes given n,
    fun c loaded => load_set_loaded loaded⟩
  · rw [← failure?_eq_none_iff, failure?_load, List.findSome?_eq_none_iff]
    simp only [fault?_eq_none_iff]
  · intro err failed
    rw [← failure?_eq_some_iff, failure?_load] at failed
    obtain ⟨before, name, after, order, at_name, usable⟩ := List.findSome?_eq_some_iff.1 failed
    obtain ⟨rfl, cause, message⟩ := message_of_fault? at_name
    refine ⟨before, after, cause, order, fun other earlier => ?_, fun fine => ?_, message⟩
    · exact fault?_eq_none_iff.1 (usable other earlier)
    · rw [fault?_eq_none_iff.2 fine] at at_name
      cases at_name

/-- A root with a slash, a timeout with a sign, and bytes where the other addresses should start. -/
def demoEnvironment : Environment :=
  ⟨[(urlVariable, .text "https://osf.io/"), (v2Variable, .raw [255]),
    (tokenVariable, .text "token"), (timeoutVariable, .text "+30"),
    (nodeVariable, .text "abc12"), (userVariable, .text "user1")]⟩

theorem loads_exact_and_normal_demo :
    ∃ c, load demoEnvironment = .ok c ∧ c.service.url = "https://osf.io" ∧
      c.service.v2 = "https://osf.io/v2/" ∧ IsWhole "+30" c.service.timeoutSecs ∧
      load (demoEnvironment.set urlVariable ("https://osf.io/" ++ slashes 2)) = .ok c ∧
      load ((demoEnvironment.set urlVariable c.service.url).set v2Variable c.service.v2) =
        .ok c := by
  obtain ⟨-, -, described, slashed, again⟩ := loads_exact_and_normal demoEnvironment
  have loaded : load demoEnvironment = .ok
      { service := ⟨"https://osf.io", "https://osf.io/v2/", "token", 30⟩
        scope := ⟨"abc12", "user1", "support@osf.io"⟩
        logPath := none } := rfl
  have whole := ((described _).1 loaded).timeout.1 "+30" rfl
  exact ⟨_, loaded, rfl, rfl, whole, (slashed "https://osf.io/" 2 rfl).trans loaded,
    again _ loaded⟩

/-- The token is read before the timeout, which is wrong too. -/
example : load ⟨[(urlVariable, .text "https://osf.io/"), (timeoutVariable, .text "soon")]⟩ =
    .error (.variable tokenVariable .notSet) := rfl

end Config

end SettingsConsole
