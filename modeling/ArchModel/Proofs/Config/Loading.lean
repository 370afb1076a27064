import ArchModel.Config.Load
import ArchModel.Proofs.Except
import ArchModel.Proofs.Group.Stack

/-!
# How loading a configuration ends

A configuration is read leniently: a value of another type than expected counts as absent. Only
three kinds of documents are not read so (`Document.Escapes`).

* `Document.HasBareRelations`: the relations are a single value, which has no members to go through.
* A document that is not `IsShort` has an integer with too many digits to be written.
* A document that does not fit on the stack (`Document.FitsOn`) has too many collections for it.

`Document.Configures` is what a mapping needs to be read. Each reader fails with an error that names
the file, where something of it is missing, or because of such a document (`meets_readContainer`).
**`loadContainer_ends`** says so of a file, and what holds of a configuration that is loaded.
-/

namespace ArchModel

open Text Yaml

namespace Yaml

/-- A value reads as a text that is not empty. -/
def Value.IsWord (v : Value) : Prop := nonempty v.plainText? ≠ none

theorem Value.scalarText?_of_plainText? {v : Value} {s : String} (h : v.plainText? = some s) :
    v.scalarText? = some s := by
  cases v <;> first | exact h | cases h

namespace Document

/-- The value that a mapping gives for the policy of groups. -/
def policyValue (d : Document) (id : Nat) : Value :=
  d.firstGiven (d.field id "groupPolicy") (d.field id "group_policy")

/-- The value that a mapping gives for relations. -/
def relationsValue (d : Document) (id : Nat) : Value :=
  d.firstGiven (d.field id "relations") (d.field id "relationships")

/-- The relations of a mapping count as given and have no members. -/
def HasBareRelations (d : Document) (id : Nat) : Prop :=
  d.isGiven (d.relationsValue id) = true ∧ d.membersOf? (d.relationsValue id) = none

/-- If a value counts as given, each of its members has a target. -/
def HasTargets (d : Document) (v : Value) : Prop :=
  d.isGiven v = true → ∃ members, d.membersOf? v = some members ∧
    ∀ m ∈ members, (d.fieldOf m "target").IsWord

/-- What the mapping of a number needs to configure a container. -/
structure Configures (d : Document) (id : Nat) : Prop where
  named : (d.field id "name").IsWord
  policy : ∀ word, nonempty (d.policyValue id).plainText? = some word →
    GroupPolicy.ofWord? word ≠ none
  targets : d.HasTargets (d.relationsValue id)

/-- The container of a mapping can be read on a stack of a length: three calls fit for each
collection that is not empty once the groups are in normal form. -/
def FitsOn (stack : Nat) (d : Document) (id : Nat) : Prop :=
  3 * (normalizeGroups d (d.field id "groups")).2.filled.length + 3 ≤ stack

/-- The ways in which the container of a mapping is not loaded, on a stack of a length, although
nothing is said against its configuration. -/
inductive Escapes (stack : Nat) (d : Document) (id : Nat) : LoadFailure → Prop
  | noMembers (bare : d.HasBareRelations id) : Escapes stack d id .noMembers
  | digits (long : ¬d.IsShort) : Escapes stack d id (.limit .digits)
  | calls (large : ¬d.FitsOn stack id) : Escapes stack d id (.limit .calls)

theorem Escapes.of_due {stack : Nat} {d : Document} {id : Nat} {l : Limit}
    (due : l.Due d.IsShort (¬d.FitsOn stack id)) : d.Escapes stack id (.limit l) :=
  match l with
  | .digits => .digits due
  | .calls => .calls due

variable {d : Document} {v : Value} {id : Nat}

/-! ## Values of a document without too long integers -/

theorem isShort_lookup {pairs : List (Value × Value)}
    (shorts : ∀ p ∈ pairs, p.1.IsShort ∧ p.2.IsShort) (key : Value) :
    ((lookup key pairs).getD .null).IsShort := by
  rw [lookup]
  cases found : pairs.find? fun p => p.1.sameKey key with
  | none => trivial
  | some p => exact (shorts p (List.mem_of_find?_eq_some found)).2

theorem IsShort.field (short : d.IsShort) (id : Nat) (key : String) : (d.field id key).IsShort :=
  isShort_lookup (short.pairs id) _

theorem IsShort.pairsOf (short : d.IsShort) (v : Value) :
    ∀ p ∈ d.pairsOf v, p.1.IsShort ∧ p.2.IsShort := by
  unfold Document.pairsOf
  split
  · exact short.pairs _
  · simp

theorem IsShort.fieldOf (short : d.IsShort) (v : Value) (key : String) :
    (d.fieldOf v key).IsShort :=
  isShort_lookup (short.pairsOf v) _

theorem IsClosed.field (closed : d.IsClosed) (id : Nat) (key : String) :
    (d.field id key).IsBelow d.collections.size := by
  rw [Document.field, lookup]
  cases found : (d.pairs id).find? fun p => p.1.sameKey (.text key) with
  | none => trivial
  | some p => exact (closed.pairs id p (List.mem_of_find?_eq_some found)).2

theorem isShort_firstGiven {a b : Value} (ha : a.IsShort) (hb : b.IsShort) :
    (d.firstGiven a b).IsShort := by
  unfold Document.firstGiven
  split
  · exact ha
  · exact hb

end Document

end Yaml

open Yaml.Document

/-! ## The readers of values

The faults `P` that may come about include each limit that is met for a reason. -/

section readers

variable {d : Document} {v : Value} {calls : Nat} {P : LoadFailure → Prop}
  (due : ∀ l : Limit, l.Due d.IsShort (calls < d.filled.length + 2) → P (.limit l))

include due

theorem meets_written (hv : d.IsShort → v.IsShort) :
    Meets P (fun s => s = d.text v) (d.written calls v) :=
  (meets_text? hv).mapError due

theorem meets_plain (hv : d.IsShort → v.IsShort) :
    Meets P (fun s => s = v.plainText?) (d.plain calls v) := by
  rw [plain]
  split
  · next s written =>
    have text : d.text v = s := by
      rw [Document.text, Value.scalarText?_of_plainText? written, Option.getD_some]
    rw [written]
    refine ((meets_text? hv).map ?_).mapError due
    exact fun t same => congrArg some (same.trans text)
  · next none => exact none.symm

theorem meets_textsOf (hv : d.IsShort → v.IsShort) :
    Meets P (fun _ => True) (d.textsOf calls v) := by
  cases v with
  | list id =>
    refine meets_filterMapM fun w hw => ?_
    exact (meets_plain due fun short => short.items id w hw).mono fun _ _ => trivial
  | _ => trivial

theorem meets_plain_fieldOf (e : Value) (key : String) :
    Meets P (fun s => s = (d.fieldOf e key).plainText?) (d.plain calls (d.fieldOf e key)) :=
  meets_plain due fun short => short.fieldOf e key

theorem meets_readExternal (v : Value) : Meets P (fun _ => True) (readExternal d calls v) := by
  refine .bind (meets_mapM (R := fun _ => True) fun p hp => ?_) fun _ _ => trivial
  refine .bind (meets_written due fun short => (short.pairsOf v p hp).1) fun _ _ => ?_
  refine .bind (meets_plain_fieldOf due p.2 "type") fun _ _ => ?_
  refine .bind (meets_plain_fieldOf due p.2 "description") fun _ _ => ?_
  refine .bind (meets_plain_fieldOf due p.2 "technology") fun _ _ => ?_
  exact .bind (meets_textsOf due fun short => short.fieldOf p.2 "tags") fun _ _ => trivial

theorem meets_readRelation {file : Path} {item : Value}
    (refused : ¬(d.fieldOf item "target").IsWord → ∀ e, e.path = some file → P (.config e)) :
    Meets P (fun _ => (d.fieldOf item "target").IsWord) (readRelation d calls file item) := by
  refine .bind (meets_plain_fieldOf due item "target") fun target read => ?_
  subst read
  split
  · next none => exact refused (fun word => word none) _ rfl
  · next some =>
    have word : (d.fieldOf item "target").IsWord := by
      rw [Value.IsWord, some]
      exact Option.some_ne_none _
    refine .bind (meets_plain_fieldOf due item "description") fun _ _ => ?_
    refine .bind (meets_plain_fieldOf due item "technology") fun _ _ => ?_
    exact .bind (meets_textsOf due fun short => short.fieldOf item "tags") fun _ _ => word

theorem meets_readRelations {file : Path}
    (refused : ¬d.HasTargets v → ∀ e, e.path = some file → P (.config e))
    (bare : d.isGiven v = true ∧ d.membersOf? v = none → P .noMembers) :
    Meets P (fun _ => d.HasTargets v) (readRelations d calls file v) := by
  unfold readRelations
  split
  · next given =>
    split
    · next none => exact bare ⟨given, none⟩
    · next members some =>
      refine (meets_mapM fun item hi => meets_readRelation due fun missing => refused ?_).mono ?_
      · intro targets
        obtain ⟨members', same, each⟩ := targets given
        obtain rfl := Option.some.inj (some.symm.trans same)
        exact missing (each item hi)
      · exact fun _ each _ => ⟨members, some, each⟩
  · next absent => exact fun given => absurd given absent

end readers

/-! ## The groups of a container -/

section groups

variable {d : Document} {id stack : Nat} {P : LoadFailure → Prop}

theorem Yaml.Document.FitsOn.filled (h : d.FitsOn stack id) (closed : d.IsClosed) :
    3 * d.filled.length + 3 ≤ stack := by
  have fewer := GroupNormalizer.length_filled_le closed (closed.field id "groups")
  have enough : 3 * (normalizeGroups d (d.field id "groups")).2.filled.length + 3 ≤ stack := h
  omega

/-- What holds of a document with its groups in normal form: there are no more too long integers,
and it fits on the stack if it did before. -/
structure Yaml.Document.Prepares (stack : Nat) (d : Document) (id : Nat) (d' : Document) :
    Prop where
  short : d.IsShort → d'.IsShort
  enough : d.FitsOn stack id → 3 * d'.filled.length + 3 ≤ stack

theorem isShort_enterGroups (short : d.IsShort) (id : Nat) :
    (enterGroups d stack (d.field id "groups")).2.IsShort := by
  have start : GroupNormalizer.IsShort { document := d } := ⟨short, by simp⟩
  unfold enterGroups
  split
  · exact start.fresh (by simp)
  · next v _ => exact (GroupNormalizer.keepsShort_normalize stack _ _ start (short.field id _)).2

theorem Yaml.Document.FitsOn.enterGroups (h : d.FitsOn stack id) (closed : d.IsClosed) :
    (enterGroups d stack (d.field id "groups")).2.document =
        (normalizeGroups d (d.field id "groups")).2 ∧
      (enterGroups d stack (d.field id "groups")).2.limit ≠ some .calls := by
  obtain ⟨same, unlimited⟩ := GroupNormalizer.run_of_long_stack closed
    (closed.field id "groups") h
  unfold ArchModel.enterGroups
  split
  · next null =>
    rw [null]
    exact ⟨rfl, by simp [GroupNormalizer.fresh]⟩
  · exact ⟨congrArg Prod.snd same, unlimited⟩

theorem meets_readGroups (closed : d.IsClosed)
    (due : ∀ l : Limit, l.Due d.IsShort (¬d.FitsOn stack id) → P (.limit l)) :
    Meets P (fun x => d.Prepares stack id x.2) (readGroups d stack (d.field id "groups")) := by
  rw [readGroups]
  dsimp only
  split
  · next l met =>
    refine due l ?_
    cases l with
    | digits => exact fun short => (isShort_enterGroups short id).limit met
    | calls => exact fun fits => (fits.enterGroups closed).2 met
  · refine ⟨fun short => (isShort_enterGroups short id).document, fun fits => ?_⟩
    rw [(fits.enterGroups closed).1]
    exact fits

end groups

/-! ## The configuration of a container -/

theorem ne_empty_of_nonempty {s : Option String} {name : String} (h : nonempty s = some name) :
    name ≠ "" := by
  have given := (Option.filter_eq_some_iff.1 h).2
  simpa using given

/-- A policy that is not given is known. -/
theorem ofWord?_getD_ne_none_iff {given : Option String} :
    GroupPolicy.ofWord? (given.getD GroupPolicy.path.word) ≠ none ↔
      ∀ word, given = some word → GroupPolicy.ofWord? word ≠ none := by
  cases given with
  | none => exact iff_of_true (by decide) (by simp)
  | some word => simp

section container

variable {d : Document} {id stack : Nat} {file : Path} {P : LoadFailure → Prop}

/-- The container of a mapping is read, or something of it is missing, or it is not read because of
such a document. -/
theorem meets_readContainer (closed : d.IsClosed) (escapes : ∀ e, d.Escapes stack id e → P e)
    (refused : ¬d.Configures id → ∀ e, e.path = some file → P (.config e)) :
    Meets P (fun x => x.1.name ≠ "" ∧ d.Configures id ∧ d.Prepares stack id x.2)
      (readContainer d stack id file) := by
  have limits (l : Limit) (due : l.Due d.IsShort (¬d.FitsOn stack id)) : P (.limit l) :=
    escapes _ (.of_due due)
  have due (l : Limit) (due : l.Due d.IsShort (stack < d.filled.length + 2)) : P (.limit l) := by
    refine limits l (due.mono (fun short => short) fun few fits => ?_)
    have enough := fits.filled closed
    omega
  have field (key : String) (short : d.IsShort) : (d.field id key).IsShort := short.field id key
  refine .bind (meets_plain due (field "name")) fun name read => ?_
  subst read
  cases given : nonempty (d.field id "name").plainText? with
  | none => exact refused (fun c => c.named given) _ rfl
  | some name =>
    refine .bind (meets_textsOf due (field "source")) fun source _ => ?_
    refine .bind (meets_plain due fun short => isShort_firstGiven (field "groupPolicy" short)
      (field "group_policy" short)) fun policy read => ?_
    subst read
    have policy := @ofWord?_getD_ne_none_iff (nonempty (d.policyValue id).plainText?)
    rw [policyValue] at policy
    dsimp only
    split
    · next known =>
      refine .bind (meets_readExternal due _) fun external _ => ?_
      refine .bind (meets_readRelations due (fun missing => refused fun c => missing c.targets)
        fun bare => escapes _ (.noMembers bare)) fun relations targets => ?_
      refine .bind (meets_readGroups closed limits) fun x prepared => ?_
      obtain ⟨groups, d'⟩ := x
      -- The other values are read from the document whose groups are in normal form.
      have due' (l : Limit) (due : l.Due d'.IsShort (stack < d'.filled.length + 2)) :
          P (.limit l) := by
        refine limits l (due.mono prepared.short fun few fits => ?_)
        have enough : 3 * d'.filled.length + 3 ≤ stack := prepared.enough fits
        omega
      have after (key : String) (short : d'.IsShort) : (d'.field id key).IsShort :=
        short.field id key
      refine .bind (meets_plain due' (after "description")) fun _ _ => ?_
      refine .bind (meets_plain due' (after "technology")) fun _ _ => ?_
      refine .bind (meets_textsOf due' (after "tags")) fun _ _ => ?_
      refine .bind (meets_mapM (R := fun _ => True) fun p hp => ?_) fun properties _ => ?_
      · refine .bind (meets_written due' fun short => (short.pairsOf _ p hp).1) fun _ _ => ?_
        exact .bind (meets_written due' fun short => (short.pairsOf _ p hp).2)
          fun _ _ => trivial
      · have configures : d.Configures id :=
          ⟨by simp [Value.IsWord, given], policy.1 (by simp [known]), targets⟩
        exact ⟨ne_empty_of_nonempty given, configures, prepared⟩
    · next unknown =>
      refine refused (fun c => ?_) _ rfl
      obtain ⟨policy, known⟩ := Option.ne_none_iff_exists'.1 (policy.2 c.policy)
      exact unknown policy known

/-- Checking the groups meets no limit that is not due. -/
theorem limit_of_prepares {d' : Document} {level : Nat} {l : Limit}
    (prepared : d.Prepares stack id d')
    (met : Groups.checkLimit? d' [] [] stack level = some l) : d.Escapes stack id (.limit l) := by
  have due := Groups.due_checkLimit? List.nodup_nil (List.nil_subset _) met
  refine .of_due (due.mono prepared.short fun few fits => ?_)
  have enough := prepared.enough fits
  rw [List.length_nil] at few
  omega

theorem meets_validate {c : ContainerConfig} {d' : Document}
    (prepared : d.Prepares stack id d') (escapes : ∀ e, d.Escapes stack id e → P e)
    (named : ∀ e, e.path = some file → P (.config e)) :
    Meets P (fun _ => c.check = .ok ()) (c.validate d' stack file) := by
  unfold ContainerConfig.validate
  split
  · next l met => exact escapes _ (limit_of_prepares prepared met)
  · cases check : c.check with
    | error e => exact named _ rfl
    | ok => rfl

theorem Yaml.Document.Configures.not_hasBareRelations (h : d.Configures id) :
    ¬d.HasBareRelations id := by
  rintro ⟨given, none⟩
  obtain ⟨members, some, -⟩ := h.targets given
  cases none.symm.trans some

/-- Where there is all that is needed, nothing keeps the container from being loaded. -/
theorem not_escapes (short : d.IsShort) (fits : d.FitsOn stack id) (configures : d.Configures id)
    (e : LoadFailure) : ¬d.Escapes stack id e
  | .noMembers bare => configures.not_hasBareRelations bare
  | .digits long => long short
  | .calls large => large fits

theorem exists_readContainer (closed : d.IsClosed) (short : d.IsShort)
    (fits : d.FitsOn stack id) (configures : d.Configures id) (file : Path) :
    ∃ x, readContainer d stack id file = .ok x ∧ d.Prepares stack id x.2 := by
  have read : Meets (fun _ => False)
      (fun x => x.1.name ≠ "" ∧ d.Configures id ∧ d.Prepares stack id x.2)
      (readContainer d stack id file) :=
    meets_readContainer closed (not_escapes short fits configures) (absurd configures)
  cases config : readContainer d stack id file with
  | error e => exact (read.fault config).elim
  | ok x => exact ⟨x, rfl, (read.result config).2.2⟩

end container

/-! ## The file of a container -/

section loading

variable {host : Host} {t : Tree} {p : WrittenPath} {file : Path} {cs : List Char}
  {P : LoadFailure → Prop}

theorem meets_readMapping (named : ∀ e, e.path = some file → P (.config e))
    (readable : t.readText file = .ok cs) (valued : ∀ kind, host.yaml cs ≠ .error (.other kind)) :
    Meets P (fun x => host.yaml cs = .ok x.1 ∧ x.1.root = .map x.2) (readMapping host t file) := by
  rw [readMapping, readable]
  refine .bind (R := fun chars => chars = cs) rfl fun chars same => ?_
  subst same
  dsimp only
  split
  · exact named _ rfl
  · cases parsed : host.yaml chars with
    | error f =>
      cases f with
      | malformed message => exact named _ rfl
      | other kind => exact absurd parsed (valued kind)
    | ok d =>
      dsimp only
      split
      · next id root => exact ⟨rfl, root⟩
      · exact named _ rfl

/-- The mapping in a file is the one at the root of the document that its text stands for. -/
theorem readMapping_eq {d : Document} {id : Nat} (readable : t.readText file = .ok cs)
    (written : cs.all isBlank = false) (parsed : host.yaml cs = .ok d)
    (root : d.root = .map id) : readMapping host t file = .ok (d, id) := by
  rw [readMapping, readable]
  dsimp only [Except.mapError, bind, Except.bind]
  rw [written, parsed]
  dsimp only
  rw [root]
  rfl

theorem meets_loadContainer (located : locate t p containerFiles = .ok file)
    (readable : t.readText file = .ok cs) (valued : ∀ kind, host.yaml cs ≠ .error (.other kind))
    (named : ∀ e, e.path = some file → P (.config e))
    (escapes : ∀ d id e, host.yaml cs = .ok d → d.root = .map id →
      d.Escapes host.stack id e → P e) (validate : Bool) :
    Meets P (fun c => c.name ≠ "" ∧ (validate = true → c.check = .ok ()) ∧
      ∃ d id, host.yaml cs = .ok d ∧ d.root = .map id ∧ d.Configures id)
      (loadContainer host t p validate) := by
  rw [loadContainer, located]
  refine .bind (R := fun found => found = file) rfl fun found same => ?_
  subst same
  refine .bind (meets_readMapping named readable valued) fun x parsed => ?_
  obtain ⟨d, id⟩ := x
  obtain ⟨parsed, root⟩ := parsed
  have closed := host.closed _ d parsed
  have escapes (e : LoadFailure) := escapes d id e parsed root
  refine .bind (meets_readContainer closed escapes fun _ => named) fun x told => ?_
  obtain ⟨c, d'⟩ := x
  obtain ⟨name, configures, prepared⟩ := told
  have configured : ∃ d id, host.yaml cs = .ok d ∧ d.root = .map id ∧ d.Configures id :=
    ⟨d, id, parsed, root, configures⟩
  cases validate with
  | false => exact ⟨name, by simp, configured⟩
  | true => exact .bind (meets_validate prepared escapes named) fun _ passed =>
      ⟨name, fun _ => passed, configured⟩

/-- A mapping that configures a container is loaded. -/
theorem exists_loadContainer {d : Document} {id : Nat}
    (located : locate t p containerFiles = .ok file) (readable : t.readText file = .ok cs)
    (written : cs.all isBlank = false) (parsed : host.yaml cs = .ok d)
    (root : d.root = .map id) (short : d.IsShort) (fits : d.FitsOn host.stack id)
    (configures : d.Configures id) :
    ∃ c, loadContainer host t p false = .ok c ∧
      (c.check = .ok () → loadContainer host t p true = .ok c) := by
  have closed := host.closed _ d parsed
  obtain ⟨⟨c, d'⟩, config, prepared⟩ :=
    exists_readContainer closed short fits configures file
  have loaded (validate : Bool) : loadContainer host t p validate = (do
      if validate then c.validate d' host.stack file
      return c) := by
    rw [loadContainer, located]
    dsimp only [Except.mapError, bind, Except.bind]
    rw [readMapping_eq readable written parsed root]
    dsimp only
    rw [config]
  refine ⟨c, loaded false, fun passed => ?_⟩
  have unlimited : Groups.checkLimit? d' [] [] host.stack c.groups.root = none :=
    Option.eq_none_iff_forall_ne_some.2 fun l met =>
      not_escapes short fits configures _ (limit_of_prepares prepared met)
  rw [loaded true, ContainerConfig.validate, unlimited, passed]
  rfl

end loading

/-! ## Two files -/

namespace ShopFile

/-- Where the file is. -/
def path : Path := ⟨["c4container.yml"]⟩

/-- A tree with a file of an ASCII text alone. -/
def tree (text : String) : Tree :=
  .dir [("c4container.yml", .file (text.toList.map fun c => UInt8.ofNat c.toNat))]

/-- A container without relations. -/
def named : String := "name: shop\n"

/-- A container whose relations are a number. -/
def bare : String := "name: shop\nrelations: 5\n"

/-- The key and the value on a line, a digit or a text. -/
def pairOf (line : List Char) : Value × Value :=
  let key := line.takeWhile (· ≠ ':')
  let value := match line.drop (key.length + 2) with
    | [c] => if c.isDigit then .int (c.toNat - '0'.toNat) else .text (String.singleton c)
    | cs => .text (String.ofList cs)
  (.text (String.ofList key), value)

theorem isBelow_pairOf (line : List Char) (n : Nat) :
    (pairOf line).1.IsBelow n ∧ (pairOf line).2.IsBelow n := by
  refine ⟨trivial, ?_⟩
  rw [pairOf]
  dsimp only
  split
  · split <;> trivial
  · trivial

/-- The document of a mapping with a key and a digit or a text on each line. -/
def documentOf (cs : List Char) : Document :=
  { collections := #[.map (((cs.splitOn '\n').filter (· ≠ [])).map pairOf)], root := .map 0 }

theorem isClosed_documentOf (cs : List Char) : (documentOf cs).IsClosed := by
  intro c hc
  obtain rfl := Array.mem_singleton.1 hc
  intro p hp
  obtain ⟨line, -, rfl⟩ := List.mem_map.1 hp
  exact isBelow_pairOf line _

/-- A host whose reader knows mappings alone. -/
def host : Host where
  yaml cs := .ok (documentOf cs)
  closed cs _ parsed := Except.ok.inj parsed ▸ isClosed_documentOf cs
  stack := 980

theorem located (text : String) :
    locate (tree text) (.ofPath {}) containerFiles = .ok path := by rfl

theorem readable_named : (tree named).readText path = .ok named.toList := by decide +kernel

theorem readable_bare : (tree bare).readText path = .ok bare.toList := by decide +kernel

/-- The document in the first file. -/
def namedDocument : Document :=
  { collections := #[.map [(.text "name", .text "shop")]], root := .map 0 }

theorem yaml_named : host.yaml named.toList = .ok namedDocument := by rfl

/-- The document in the second file. -/
def bareDocument : Document :=
  { collections := #[.map [(.text "name", .text "shop"), (.text "relations", .int 5)]],
    root := .map 0 }

theorem yaml_bare : host.yaml bare.toList = .ok bareDocument := by rfl

theorem isShort_named : namedDocument.IsShort := by
  simp [Document.IsShort, namedDocument, Collection.IsShort, Value.IsShort]

theorem fitsOn_named : namedDocument.FitsOn host.stack 0 := by
  rw [Document.FitsOn]
  decide

theorem configures_named : namedDocument.Configures 0 where
  named := by
    rw [Value.IsWord]
    decide
  policy := by decide
  targets given := absurd given (by decide)

theorem loadContainer_bare : loadContainer host (tree bare) (.ofPath {}) = .error .noMembers := by
  rw [loadContainer, located]
  dsimp only [Except.mapError, bind, Except.bind]
  rw [readMapping_eq readable_bare (by decide +kernel) yaml_bare rfl]
  rfl

end ShopFile

/-! ## Any file -/

/-- **How loading ends.** Let the reader of YAML make a document of the text of a file or say that
it is no YAML.

* If the file is loaded, the configuration has a name and passes its check if it was checked, and
  the mapping at the root has all that it needs.
* If not, there is an error that names the file, or the relations are a single value without
  members, or an integer of the document has too many digits, or the document does not fit on the
  stack.
* In a document without too long integers that fits on the stack, a mapping with all that it needs
  is loaded. -/
theorem loadContainer_ends {host : Host} {t : Tree} {p : WrittenPath} {file : Path}
    {cs : List Char} (located : locate t p containerFiles = .ok file)
    (readable : t.readText file = .ok cs) (valued : ∀ kind, host.yaml cs ≠ .error (.other kind)) :
    (∀ validate c, loadContainer host t p validate = .ok c →
      c.name ≠ "" ∧ (validate = true → c.check = .ok ()) ∧
      ∃ d id, host.yaml cs = .ok d ∧ d.root = .map id ∧ d.Configures id) ∧
    (∀ validate e, loadContainer host t p validate = .error e →
      (∃ e', e = .config e' ∧ e'.path = some file) ∨
      ∃ d id, host.yaml cs = .ok d ∧ d.root = .map id ∧ d.Escapes host.stack id e) ∧
    ∀ d id, cs.all isBlank = false → host.yaml cs = .ok d → d.root = .map id → d.IsShort →
      d.FitsOn host.stack id → d.Configures id →
      ∃ c, loadContainer host t p false = .ok c ∧
        (c.check = .ok () → loadContainer host t p true = .ok c) := by
  have ends := meets_loadContainer (P := fun e => (∃ e', e = .config e' ∧ e'.path = some file) ∨
      ∃ d id, host.yaml cs = .ok d ∧ d.root = .map id ∧ d.Escapes host.stack id e)
    located readable valued (fun e at_file => .inl ⟨e, rfl, at_file⟩)
    fun d id e parsed root escapes => .inr ⟨d, id, parsed, root, escapes⟩
  exact ⟨fun validate c loaded => (ends validate).result loaded,
    fun validate e failed => (ends validate).fault failed,
    fun d id => exists_loadContainer located readable⟩

open ShopFile in
theorem loadContainer_ends_shop :
    locate (tree named) (.ofPath {}) containerFiles = .ok path ∧
    (tree named).readText path = .ok named.toList ∧
    (∀ kind, host.yaml named.toList ≠ .error (.other kind)) ∧
    named.toList.all isBlank = false ∧ namedDocument.IsShort ∧
    namedDocument.FitsOn host.stack 0 ∧ namedDocument.Configures 0 ∧
    ∃ c, loadContainer host (tree named) (.ofPath {}) false = .ok c ∧ c.name ≠ "" := by
  have valued (kind : String) : host.yaml named.toList ≠ .error (.other kind) := by
    simp [yaml_named]
  have written : named.toList.all isBlank = false := by decide +kernel
  obtain ⟨told, -, loads⟩ := loadContainer_ends (located named) readable_named valued
  obtain ⟨c, loaded, -⟩ :=
    loads _ _ written yaml_named rfl isShort_named fitsOn_named configures_named
  exact ⟨located named, readable_named, valued, written, isShort_named, fitsOn_named,
    configures_named, c, loaded, (told false c loaded).1⟩

open ShopFile in
/-- A number in the place of the relations ends loading with no error about the configuration. -/
theorem not_forall_loadContainer_ends : ¬∀ (host : Host) (t : Tree) (p : WrittenPath) (file : Path)
    (cs : List Char), locate t p containerFiles = .ok file → t.readText file = .ok cs →
    (∀ kind, host.yaml cs ≠ .error (.other kind)) →
    ∀ e, loadContainer host t p = .error e → ∃ e', e = .config e' := by
  intro all
  obtain ⟨e, same⟩ := all host (tree bare) (.ofPath {}) path bare.toList (located bare)
    readable_bare (by simp [yaml_bare]) _ loadContainer_bare
  cases same

end ArchModel
