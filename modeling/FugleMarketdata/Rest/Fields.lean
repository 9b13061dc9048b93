/-
**Requests by field.** `to_query` of `uniffi/src/params.rs` and `Request` of `uniffi/src/client.rs`: the fields of a
params record, by canonical name, become the query of a request.

* `toQuery` — the source's loop over the fields;
* `Settings` — the fields a record can hold for an endpoint: known, distinct, a boolean flag where the table
  has one;
* `Settings.send_fields`, `Settings.send_object` — a record sends them, and an object that holds them sends
  the same.
-/

import FugleMarketdata.Rest.ObjectForm

namespace FugleMarketdata.Rest

open Slots

/-! ### The source's functions -/

/-- A record field's value; a float stands as what `{}` prints of it. -/
inductive FieldValue where
  | str (s : String)
  | bool (b : Bool)
  | flag (on : Bool)
  | u32 (n : UInt32)
  | f64 (text : String)
  deriving DecidableEq, Repr

/-- What `{}` prints of a value. -/
def FieldValue.display : FieldValue → String
  | .str s => s
  | .bool b => toString b
  | .flag on => toString on
  | .u32 n => toString n.toNat
  | .f64 text => text

/-- A field to send: the canonical name and the value. -/
abbrev Field := String × FieldValue

/-- One field of a query. -/
def pushField (spec : EndpointSpec) (pairs : List (String × String)) (field : Field) :
    Except Refusal (List (String × String)) :=
  let (canonical, value) := field
  match spec.resolve canonical with
  | none =>
    let endpoint := ".".intercalate spec.path
    let accepted := ", ".intercalate spec.names
    .error (invalid canonical s!"`{endpoint}` does not accept `{canonical}`; accepted keys: {accepted}")
  | some resolved =>
    let name := resolved.spec.name
    match value with
    | .flag true =>
      match resolved.spec.flag with
      | some literal => .ok (pairs ++ [(name, literal)])
      | none =>
        let path := "/".intercalate spec.path
        .error (.panicked s!"`{canonical}` is not a flag in {path}")
    | .flag false => .ok pairs
    | .str _ | .bool _ | .u32 _ | .f64 _ => .ok (pairs ++ [(name, value.display)])

/-- Resolve fields into query pairs, in the order given. -/
def toQuery (spec : EndpointSpec) (fields : List Field) : Except Refusal (List (String × String)) :=
  fields.foldlM (pushField spec) []

/-- `Request`: the endpoint's path, its path parameter and the fields to send. -/
structure FieldRequest where
  path : List String
  pathParam : Option String
  fields : List Field

/-- `Request::send`, as far as the call of `get_json`. -/
def FieldRequest.send (request : FieldRequest) : Except Refusal GetJson :=
  match EndpointSpec.forPath request.path with
  | none =>
    let joined := "/".intercalate request.path
    .error (.panicked s!"{joined} has no entry in core::rest::params")
  | some spec =>
    (toQuery spec request.fields).map fun query =>
      { segments := request.path ++ request.pathParam.toList, query }

/-! ### Settings -/

/-- Whether a value is a flag's. -/
def FieldValue.isFlag : FieldValue → Bool
  | .flag _ => true
  | _ => false

/-- What a caller can set on an endpoint: parameters by canonical name, each once, a flag's as a flag. -/
structure Settings (e : EndpointSpec) where
  fields : List Field
  known : ∀ field ∈ fields, ∃ spec ∈ e.params, spec.canonical = field.1 ∧ spec.flag.isSome = field.2.isFlag
  distinct : (fields.map Prod.fst).Nodup

/-- What a parameter with a value puts on the wire. -/
def ParamSpec.sends (spec : ParamSpec) : FieldValue → List (String × String)
  | .flag true => spec.flag.toList.map fun literal => (spec.name, literal)
  | .flag false => []
  | value => [(spec.name, value.display)]

namespace Settings

variable {e : EndpointSpec} (settings : Settings e)

/-- The value of a parameter. -/
def value (canonical : String) : Option FieldValue := settings.fields.lookup canonical

/-- What a parameter puts on the wire. -/
def gives (spec : ParamSpec) : List (String × String) :=
  ((settings.value spec.canonical).map spec.sends).getD []

/-- What the settings put on the wire, in the order of the row. -/
def wire : List (String × String) := e.params.flatMap settings.gives

end Settings

/-- A value in a params object. A number has the text `{}` gives it; `serde_json` writes some with an
exponent where `{}` has none (`1e-7` for `0.0000001`), and such a number is another value here. -/
def FieldValue.toValue : FieldValue → Value
  | .str s => .string s
  | .bool b => .bool b
  | .flag on => .bool on
  | .u32 n => .number (toString n.toNat)
  | .f64 text => .number text

/-! ### One field -/

section Field

variable {e : EndpointSpec} (formed : e.WellFormed) {spec : ParamSpec} {value : FieldValue}

include formed

/-- A canonical name is resolved by its parameter, as the flag where it has one. -/
theorem resolve_canonical (row : spec ∈ e.params) :
    e.resolve spec.canonical = some { spec, asFlag := spec.flag.isSome } := by
  refine formed.resolve_eq_some.mpr ⟨row, spec.canonical_mem_spellings, ?_⟩
  by_cases flag : spec.flag.isSome = true
  · have other := formed.forms spec row flag
    simp [flag, other]
  · simp [Bool.not_eq_true _ ▸ flag]

theorem pushField_eq (row : spec ∈ e.params) (kind : spec.flag.isSome = value.isFlag)
    (pairs : List (String × String)) :
    pushField e pairs (spec.canonical, value) = .ok (pairs ++ spec.sends value) := by
  simp only [pushField, resolve_canonical formed row]
  cases value with
  | flag on =>
    obtain ⟨literal, sends⟩ := Option.isSome_iff_exists.mp kind
    by_cases set_ : on = true
    · subst set_
      simp [sends, ParamSpec.sends]
    · rw [Bool.not_eq_true] at set_
      subst set_
      simp [ParamSpec.sends]
  | _ => rfl

omit formed in
/-- The object form sends the same of the same value. -/
theorem texts_toValue (kind : spec.flag.isSome = value.isFlag) : ∃ values,
    texts { spec, asFlag := spec.flag.isSome } value.toValue = some values ∧
      values.map (fun text => (spec.name, text)) = spec.sends value := by
  unfold texts
  cases value with
  | flag on =>
    obtain ⟨literal, sends⟩ := Option.isSome_iff_exists.mp kind
    by_cases set_ : on = true
    · subst set_
      exact ⟨[literal], by simp [sends, FieldValue.toValue], by simp [ParamSpec.sends, sends]⟩
    · rw [Bool.not_eq_true] at set_
      subst set_
      exact ⟨[], by simp [sends, FieldValue.toValue], by simp [ParamSpec.sends]⟩
  | str text => exact ⟨[text], by rw [kind]; rfl, rfl⟩
  | bool on => exact ⟨[toString on], by rw [kind]; rfl, rfl⟩
  | u32 n => exact ⟨[toString n.toNat], by rw [kind]; rfl, rfl⟩
  | f64 text => exact ⟨[text], by rw [kind]; rfl, rfl⟩

end Field

/-! ### All fields -/

/-- Where only some entries give anything, they give it all. -/
theorem perm_flatMap_of_subset {α β : Type} {some_ all : List α} (distinct : some_.Nodup) (whole : all.Nodup)
    (among : some_ ⊆ all) {gives : α → List β} (nothing : ∀ entry ∈ all, entry ∉ some_ → gives entry = []) :
    (some_.flatMap gives).Perm (all.flatMap gives) := by
  classical
  have split : all.Perm (some_ ++ all.filter fun entry => entry ∉ some_) := by
    refine (List.perm_ext_iff_of_nodup whole ?_).mpr fun entry => ?_
    · refine List.nodup_append.mpr ⟨distinct, whole.filter _, fun first here second there same => ?_⟩
      subst same
      simpa [here] using (List.mem_filter.mp there).2
    · rw [List.mem_append, List.mem_filter]
      by_cases here : entry ∈ some_
      · simp [here, among here]
      · simp [here]
  have rest : (all.filter fun entry => entry ∉ some_).flatMap gives = [] := by
    refine List.flatMap_eq_nil_iff.mpr fun entry member => ?_
    obtain ⟨there, absent⟩ := List.mem_filter.mp member
    exact nothing entry there (by simpa using absent)
  have moved := split.flatMap_right gives
  rw [List.flatMap_append, rest, List.append_nil] at moved
  exact moved.symm

namespace Settings

variable {e : EndpointSpec} (settings : Settings e)

theorem value_eq_some {canonical : String} {value : FieldValue} :
    settings.value canonical = some value ↔ (canonical, value) ∈ settings.fields :=
  IndexMap.get?_eq_some (m := ⟨settings.fields, settings.distinct⟩)

/-- The parameter of a field. -/
structure Sets (spec : ParamSpec) (field : Field) : Prop where
  row : spec ∈ e.params
  canonical : spec.canonical = field.1
  kind : spec.flag.isSome = field.2.isFlag
  value : settings.value spec.canonical = some field.2

theorem Sets.gives_eq {spec : ParamSpec} {field : Field} (sets : settings.Sets spec field) :
    settings.gives spec = spec.sends field.2 := by
  rw [gives, sets.value]
  rfl

/-- Every field has its parameter. -/
theorem exists_specs : ∃ specs, List.Forall₂ settings.Sets specs settings.fields := by
  have each : ∀ field ∈ settings.fields, ∃ spec, settings.Sets spec field := by
    intro field member
    obtain ⟨spec, row, canonical, kind⟩ := settings.known field member
    exact ⟨spec, row, canonical, kind, settings.value_eq_some.mpr (canonical ▸ member)⟩
  generalize settings.fields = fields at each
  induction fields with
  | nil => exact ⟨[], .nil⟩
  | cons field rest ih =>
    obtain ⟨spec, sets⟩ := each field List.mem_cons_self
    obtain ⟨specs, others⟩ := ih fun other member => each other (List.mem_cons_of_mem _ member)
    exact ⟨spec :: specs, .cons sets others⟩

section Specs

variable {settings} {specs : List ParamSpec} {fields : List Field}

theorem map_canonical (sets : List.Forall₂ settings.Sets specs fields) :
    specs.map ParamSpec.canonical = fields.map Prod.fst := by
  induction sets with
  | nil => rfl
  | cons sets _ ih => rw [List.map_cons, List.map_cons, ih, sets.canonical]

theorem specs_subset (sets : List.Forall₂ settings.Sets specs fields) : specs ⊆ e.params := by
  induction sets with
  | nil => exact List.nil_subset _
  | cons sets _ ih => exact List.cons_subset.mpr ⟨sets.row, ih⟩

theorem pushFields_eq (formed : e.WellFormed) (sets : List.Forall₂ settings.Sets specs fields)
    (pairs : List (String × String)) :
    fields.foldlM (pushField e) pairs = .ok (pairs ++ specs.flatMap settings.gives) := by
  induction sets generalizing pairs with
  | nil => simp [pure, Except.pure]
  | @cons spec field specs rest sets _ ih =>
    obtain ⟨canonical, value⟩ := field
    obtain rfl := sets.canonical
    rw [List.foldlM_cons, pushField_eq formed sets.row sets.kind]
    show List.foldlM (pushField e) _ _ = _
    rw [ih, List.flatMap_cons, sets.gives_eq, List.append_assoc]

end Specs

/-- What the fields give, parameter by parameter, is what the settings put on the wire. -/
theorem perm_wire (formed : e.WellFormed) {specs : List ParamSpec}
    (sets : List.Forall₂ settings.Sets specs settings.fields) :
    (specs.flatMap settings.gives).Perm settings.wire := by
  have names := map_canonical sets
  refine perm_flatMap_of_subset (List.Nodup.of_map _ (names ▸ settings.distinct)) formed.nodup_params
    (specs_subset sets) fun spec row absent => ?_
  cases found : settings.value spec.canonical with
  | none =>
    rw [gives, found]
    rfl
  | some value =>
    have name : spec.canonical ∈ specs.map ParamSpec.canonical :=
      names ▸ List.mem_map_of_mem (f := Prod.fst) (settings.value_eq_some.mp found)
    obtain ⟨other, there, same⟩ := List.mem_map.mp name
    exact (absent (formed.eq_of_canonical (specs_subset sets there) row same ▸ there)).elim

/-- A record's request: the loop over the fields gets through, and sends what the settings put on the
wire. -/
theorem send_fields (row : e ∈ ENDPOINTS) (segment : Option String) : ∃ query,
    FieldRequest.send ⟨e.path, segment, settings.fields⟩ =
        .ok ⟨e.path ++ segment.toList, query⟩ ∧ query.Perm settings.wire := by
  have formed := wellFormed e row
  obtain ⟨specs, sets⟩ := settings.exists_specs
  refine ⟨_, ?_, settings.perm_wire formed sets⟩
  have through : toQuery e settings.fields = .ok (specs.flatMap settings.gives) := by
    simpa [toQuery] using pushFields_eq formed sets []
  rw [FieldRequest.send, EndpointSpec.forPath_eq_some row |>.mpr rfl]
  simp only [through]
  rfl

/-! ### The same as an object -/

/-- An object that holds the settings, in any order and its numbers in the builder's text, and the path
parameter under one of its names. -/
structure Holds (segment : Option String) (params : IndexMap String Value) : Prop where
  bare : e.pathParam = none → segment = none ∧
    params.entries.Perm (settings.fields.map fun field => (field.1, field.2.toValue))
  path : ∀ name, e.pathParam = some name → ∃ key text, segment = some text ∧ e.isPathParam key = true ∧
    params.entries.Perm ((key, .string text) :: settings.fields.map fun field => (field.1, field.2.toValue))

/-- A field as an object's key. -/
def entry (field : Field) : String × Value := (field.1, field.2.toValue)

section Object

variable {settings} {segment : Option String} {params : IndexMap String Value} (formed : e.WellFormed)

theorem Sets.resolve {spec : ParamSpec} {field : Field} (formed : e.WellFormed)
    (sets : settings.Sets spec field) :
    e.resolve field.1 = some { spec, asFlag := spec.flag.isSome } :=
  sets.canonical ▸ resolve_canonical formed sets.row

theorem Sets.notPath {spec : ParamSpec} {field : Field} (formed : e.WellFormed)
    (sets : settings.Sets spec field) : e.isPathParam field.1 = false :=
  formed.query _ (formed.resolve_isSome.mp (by rw [sets.resolve formed]; rfl))

theorem exists_sets {field : Field} (member : field ∈ settings.fields) : ∃ spec, settings.Sets spec field := by
  obtain ⟨spec, row, canonical, kind⟩ := settings.known field member
  exact ⟨spec, row, canonical, kind, settings.value_eq_some.mpr (canonical ▸ member)⟩

/-- The fields as entries have distinct keys. -/
theorem nodup_entries : (settings.fields.map entry).Nodup := by
  refine List.Nodup.of_map Prod.fst ?_
  rw [List.map_map]
  exact settings.distinct

/-- The keys of such an object that name no path parameter are the fields. -/
theorem Holds.field_iff (holds : settings.Holds segment params) {key : String} {value : Value}
    (query : e.isPathParam key = false) :
    params.get? key = some value ↔ (key, value) ∈ settings.fields.map entry := by
  rw [IndexMap.get?_eq_some]
  cases named : e.pathParam with
  | none => exact (holds.bare named).2.mem_iff
  | some name =>
    obtain ⟨own, text, -, isPath, same⟩ := holds.path name named
    rw [same.mem_iff, List.mem_cons]
    refine or_iff_right fun here => ?_
    cases here
    rw [isPath] at query
    cases query

include formed

/-- A key that names the path parameter has its text. -/
theorem Holds.path_text (holds : settings.Holds segment params) {key : String} {value : Value}
    (isPath : e.isPathParam key = true) (found : params.get? key = some value) :
    ∃ text, segment = some text ∧ value = .string text ∧
      params.entries.Perm ((key, .string text) :: settings.fields.map entry) := by
  have notField : (key, value) ∉ settings.fields.map entry := by
    intro member
    obtain ⟨field, there, same⟩ := List.mem_map.mp member
    obtain ⟨spec, sets⟩ := exists_sets there
    cases same
    rw [sets.notPath formed] at isPath
    cases isPath
  cases named : e.pathParam with
  | none => exact (notField ((holds.bare named).2.mem_iff.mp (IndexMap.get?_eq_some.mp found))).elim
  | some name =>
    obtain ⟨own, text, given, -, same⟩ := holds.path name named
    rcases List.mem_cons.mp (same.mem_iff.mp (IndexMap.get?_eq_some.mp found)) with here | member
    · cases here
      exact ⟨text, given, rfl, same⟩
    · exact (notField member).elim

/-- The endpoint takes the object. -/
theorem Holds.takes (holds : settings.Holds segment params) : e.Takes params where
  path name named := by
    obtain ⟨key, text, -, isPath, same⟩ := holds.path name named
    exact ⟨key, .string text, text, IndexMap.get?_eq_some.mpr (same.mem_iff.mpr List.mem_cons_self), isPath,
      rfl⟩
  single key one other two isPath again := by
    obtain ⟨value, found⟩ := IndexMap.mem_iff_get?.mp one
    obtain ⟨another, there⟩ := IndexMap.mem_iff_get?.mp two
    obtain ⟨text, -, -, same⟩ := holds.path_text formed isPath found
    rcases List.mem_cons.mp (same.mem_iff.mp (IndexMap.get?_eq_some.mp there)) with here | member
    · cases here
      rfl
    · obtain ⟨field, there, same⟩ := List.mem_map.mp member
      obtain ⟨spec, sets⟩ := exists_sets there
      cases same
      rw [sets.notPath formed] at again
      cases again
  query key value found notPath := by
    obtain ⟨field, there, same⟩ := List.mem_map.mp ((holds.field_iff notPath).mp found)
    obtain ⟨spec, sets⟩ := exists_sets there
    obtain ⟨values, told, -⟩ := texts_toValue sets.kind
    cases same
    exact ⟨_, sets.resolve formed, by rw [told]; rfl⟩
  apart key one other two r s first second same := by
    have canonical {key : String} {r : Resolved} (member : key ∈ params) (known : e.resolve key = some r) :
        r.spec.canonical = key := by
      obtain ⟨value, found⟩ := IndexMap.mem_iff_get?.mp member
      have notPath : e.isPathParam key = false :=
        formed.query key (formed.resolve_isSome.mp (by rw [known]; rfl))
      obtain ⟨field, there, entry⟩ := List.mem_map.mp ((holds.field_iff notPath).mp found)
      obtain ⟨spec, sets⟩ := exists_sets there
      cases entry
      cases known.symm.trans (sets.resolve formed)
      exact sets.canonical
    rw [← canonical one first, ← canonical two second, same]

omit formed in
/-- As entries of an object the fields give the same pairs. -/
theorem all_entries (formed : e.WellFormed) {specs : List ParamSpec} {fields : List Field}
    (sets : List.Forall₂ settings.Sets specs fields) :
    (plan e).all (fields.map entry) = specs.flatMap settings.gives := by
  induction sets with
  | nil => rfl
  | @cons spec field specs rest sets _ ih =>
    obtain ⟨values, told, same⟩ := texts_toValue sets.kind
    have own : (plan e).items (entry field) = some (spec.sends field.2) :=
      plan_items.mpr ⟨_, values, sets.resolve formed, told, same⟩
    rw [Slots.Plan.all] at ih ⊢
    rw [List.map_cons, List.flatMap_cons, List.flatMap_cons, own, Option.getD_some, ih, sets.gives_eq]

end Object

/-- An object that holds the settings is sent as the settings. -/
theorem send_object {segment : Option String} {params : IndexMap String Value} (row : e ∈ ENDPOINTS)
    (lower : Lowercase) (holds : settings.Holds segment params) : ∃ query,
    getWithParams lower e.path params = .ok ⟨e.path ++ segment.toList, query⟩ ∧
      query.Perm settings.wire := by
  have formed := wellFormed e row
  obtain ⟨⟨segments, query⟩, went⟩ := ok_of_takes row lower (holds.takes formed)
  obtain ⟨-, bare, path, rest, fits, rfl, same⟩ := sent_of_ok row went
  obtain ⟨specs, sets⟩ := settings.exists_specs
  have segments_eq : segments = e.path ++ segment.toList := by
    cases named : e.pathParam with
    | none => exact (bare named).trans (by rw [(holds.bare named).1, Option.toList_none, List.append_nil])
    | some name =>
      obtain ⟨key, value, text, found, isPath, scalar, is⟩ := path name named
      obtain ⟨own, given, rfl, -⟩ := holds.path_text formed isPath found
      cases scalar
      exact is.trans (by rw [given]; rfl)
  have moved : rest.entries.Perm (settings.fields.map entry) := by
    refine (List.perm_ext_iff_of_nodup (List.Nodup.of_map _ rest.nodup) nodup_entries).mpr ?_
    rintro ⟨key, value⟩
    constructor
    · intro member
      obtain ⟨r, known, -⟩ := ((fits_iff formed).mp fits).1 key value (IndexMap.get?_eq_some.mpr member)
      have query : e.isPathParam key = false :=
        formed.query key (formed.resolve_isSome.mp (by rw [known]; rfl))
      exact (holds.field_iff query).mp ((same key value query).mp (IndexMap.get?_eq_some.mpr member))
    · intro member
      obtain ⟨field, there, is⟩ := List.mem_map.mp member
      obtain ⟨spec, sets⟩ := exists_sets there
      have query : e.isPathParam key = false := by
        cases is
        exact sets.notPath formed
      exact IndexMap.get?_eq_some.mp ((same key value query).mpr ((holds.field_iff query).mpr member))
  refine ⟨_, segments_eq ▸ went, ?_⟩
  have all := moved.flatMap_right fun item => ((plan e).items item).getD []
  exact (all.trans (List.Perm.of_eq (all_entries formed sets))).trans (settings.perm_wire formed sets)

end Settings

end FugleMarketdata.Rest
