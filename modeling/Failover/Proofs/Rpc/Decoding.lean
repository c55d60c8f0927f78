import Failover.Proofs.Json.ReadBack
import Failover.Rpc.OverHttp
import Mathlib.Data.List.Induction
import Mathlib.Logic.Relation
import Mathlib.Tactic.Common

/-!
# What an answer stands for

A response is decoded in one pass over its body, which fills the places of an envelope one by one.
`Envelope.Reads` says what comes out of this without a pass: of each place, that at most one member
has its name, and its value. `Decodes` puts the status in front and the error value behind, and it
is what a request over HTTP returns.

How JSON is written is taken as given here. A body is read as far as it matters: all of it has to be
one JSON text, of which `Json.Outline.ofBytes?` shows the outline, every key has to be a text
(`Json.stringValue?`), and the members of the envelope have to have a value (`Json.Outline.value?`),
which sets a limit to the nesting and to numbers. Of any other member no more than the outline is
read.

An error value whose message is no text stands for itself: the message of the failure is its compact
text, and that text reads back as the error (`Json.ofText?_compact`).
-/

namespace Failover

namespace Rpc

/-! ## The members of an envelope -/

namespace Envelope

/-- The values of the members with a name, in order. A value that cannot be read is `none`. -/
def valuesOf (name : String) (members : List (List UInt8 × Json.Outline)) : List (Option Json) :=
  (members.filter fun m => Json.stringValue? m.1 = some name).map fun m => m.2.value? memberDepth

/-- At most one member has a name, and a place holds its value. -/
def Holds (name : String) (members : List (List UInt8 × Json.Outline)) (slot : Option Json) : Prop :=
  valuesOf name members = slot.toList.map some

/-- An outline reads as an envelope. -/
inductive Reads : Json.Outline → Envelope → Prop
  /-- An object whose keys are texts: each place holds the value of the one member with its name, if
  there is one. -/
  | object {members : List (List UInt8 × Json.Outline)} {e : Envelope} :
    (∀ m ∈ members, (Json.stringValue? m.1).isSome) → Holds "result" members e.result →
    Holds "error" members e.error → Holds "id" members e.id → Reads (.object members) e
  /-- An array of at most three values: the result, the error and the identifier. -/
  | array {items : List Json.Outline} {values : List Json} :
    items.map (Json.Outline.value? memberDepth) = values.map some → values.length ≤ 3 →
    Reads (.array items) ⟨values[0]?, values[1]?, values[2]?⟩

/-- Two outlines differ in something that no outcome depends on. Since the order of members is one
of these things, the others are said of a first member. -/
inductive Differs : Json.Outline → Json.Outline → Prop
  /-- The order of the members. -/
  | order {members members' : List (List UInt8 × Json.Outline)} : members.Perm members' →
    Differs (.object members) (.object members')
  /-- A member with another name, whatever it holds. -/
  | other {key : List UInt8} {name : String} {item : Json.Outline}
    {members : List (List UInt8 × Json.Outline)} : Json.stringValue? key = some name →
    name ∉ ["result", "error", "id"] → Differs (.object ((key, item) :: members)) (.object members)
  /-- The value of the identifier. -/
  | id {key : List UInt8} {item item' : Json.Outline}
    {members : List (List UInt8 × Json.Outline)} : Json.stringValue? key = some "id" →
    (item.value? memberDepth).isSome → (item'.value? memberDepth).isSome →
    Differs (.object ((key, item) :: members)) (.object ((key, item') :: members))
  /-- The value of the identifier, by its position. -/
  | third {result error item item' : Json.Outline} : (item.value? memberDepth).isSome →
    (item'.value? memberDepth).isSome →
    Differs (.array [result, error, item]) (.array [result, error, item'])

variable {name key : String} {members members' : List (List UInt8 × Json.Outline)}
  {m : List UInt8 × Json.Outline} {slot slot' : Option Json} {e e' : Envelope}

/-- The values of a name among two lists of members, one after the other. -/
lemma valuesOf_append (name : String) (members members' : List (List UInt8 × Json.Outline)) :
    valuesOf name (members ++ members') = valuesOf name members ++ valuesOf name members' := by
  simp [valuesOf]

/-- A single member has a value for a name exactly when its key is this name. -/
lemma valuesOf_singleton (h : Json.stringValue? m.1 = some key) :
    valuesOf name [m] = if key = name then [m.2.value? memberDepth] else [] := by
  unfold valuesOf
  by_cases hname : key = name <;> simp [h, hname]

/-- The list of at most one value determines the slot it came from. -/
lemma map_some_inj : slot.toList.map some = slot'.toList.map some ↔ slot = slot' := by
  cases slot <;> cases slot' <;> simp

/-- A place is filled exactly if it was free and the value can be read. -/
lemma place?_eq_some_iff {item : Json.Outline} :
    place? slot item = some slot' ↔
      slot.toList.map some ++ [item.value? memberDepth] = slot'.toList.map some := by
  unfold place?
  cases slot with
  | some v => cases slot' <;> simp
  | none => cases item.value? memberDepth <;> cases slot' <;> simp

/-- A member is taken in exactly if its key is a text, and then it fills the place with its name. -/
lemma add?_eq_some_iff :
    e.add? m = some e' ↔ (Json.stringValue? m.1).isSome ∧
      e.result.toList.map some ++ valuesOf "result" [m] = e'.result.toList.map some ∧
      e.error.toList.map some ++ valuesOf "error" [m] = e'.error.toList.map some ∧
      e.id.toList.map some ++ valuesOf "id" [m] = e'.id.toList.map some := by
  obtain ⟨result, error, id⟩ := e
  obtain ⟨result', error', id'⟩ := e'
  unfold add?
  cases hkey : Json.stringValue? m.1 with
  | none => simp
  | some key =>
    simp only [valuesOf_singleton hkey, Option.isSome_some, true_and]
    by_cases hresult : key = "result"
    · subst hresult
      simp [map_some_inj, ← place?_eq_some_iff]
    by_cases herror : key = "error"
    · subst herror
      simp [map_some_inj, ← place?_eq_some_iff, and_left_comm]
    by_cases hid : key = "id"
    · subst hid
      simp [map_some_inj, ← place?_eq_some_iff, and_comm, and_assoc]
    simp [map_some_inj, hresult, herror, hid]

/-- What comes before a value in a place is nothing or fills the place alone. -/
lemma exists_of_append {values more : List (Option Json)}
    (h : values ++ more = slot.toList.map some) :
    ∃ before : Option Json, values = before.toList.map some := by
  cases slot with
  | none =>
    obtain ⟨rfl, -⟩ := List.append_eq_nil_iff.mp h
    exact ⟨none, rfl⟩
  | some v =>
    rcases List.append_eq_singleton_iff.mp h with ⟨rfl, -⟩ | ⟨rfl, -⟩
    · exact ⟨none, rfl⟩
    · exact ⟨some v, rfl⟩

/-- The members of an object are taken in exactly if their keys are texts and every place holds the
value of the one member with its name, if there is one. -/
lemma foldlM_add?_eq_some_iff :
    members.foldlM add? empty = some e ↔ (∀ m ∈ members, (Json.stringValue? m.1).isSome) ∧
      Holds "result" members e.result ∧ Holds "error" members e.error ∧
        Holds "id" members e.id := by
  induction members using List.reverseRecOn generalizing e with
  | nil =>
    obtain ⟨result, error, id⟩ := e
    cases result <;> cases error <;> cases id <;> simp [Holds, valuesOf, empty]
  | append_singleton members m ih =>
    have hstep : (members ++ [m]).foldlM add? empty = some e ↔
        ∃ past, members.foldlM add? empty = some past ∧ past.add? m = some e := by
      simp [List.foldlM_append, Option.bind_eq_some_iff]
    unfold Holds at ih ⊢
    simp only [hstep, ih, add?_eq_some_iff, valuesOf_append, List.forall_mem_append,
      List.forall_mem_singleton]
    constructor
    · rintro ⟨past, ⟨hkeys, hresult, herror, hid⟩, hkey, hresult', herror', hid'⟩
      rw [hresult, herror, hid]
      exact ⟨⟨hkeys, hkey⟩, hresult', herror', hid'⟩
    · rintro ⟨⟨hkeys, hkey⟩, hresult, herror, hid⟩
      obtain ⟨result, hresult'⟩ := exists_of_append hresult
      obtain ⟨error, herror'⟩ := exists_of_append herror
      obtain ⟨id, hid'⟩ := exists_of_append hid
      rw [hresult'] at hresult
      rw [herror'] at herror
      rw [hid'] at hid
      exact ⟨⟨result, error, id⟩, ⟨hkeys, hresult', herror', hid'⟩, hkey, hresult, herror, hid⟩

/-- Reading all items gives the values they have one by one. -/
lemma mapM_value?_eq_some_iff {items : List Json.Outline} {values : List Json} :
    items.mapM (Json.Outline.value? memberDepth) = some values ↔
      items.map (Json.Outline.value? memberDepth) = values.map some := by
  induction items generalizing values with
  | nil => cases values <;> simp
  | cons item items ih =>
    rw [List.mapM_cons]
    cases values with
    | nil => simp [Option.bind_eq_some_iff]
    | cons v values => simp [Option.bind_eq_some_iff, ih]

/-- An array is taken for an envelope by the positions of its items. -/
lemma ofOutline?_array {items : List Json.Outline} :
    ofOutline? (.array items) =
      (items.mapM (Json.Outline.value? memberDepth)).bind fun values =>
        if values.length ≤ 3 then some ⟨values[0]?, values[1]?, values[2]?⟩ else none := by
  unfold ofOutline?
  dsimp only
  cases items.mapM (Json.Outline.value? memberDepth) with
  | none => rfl
  | some values =>
    match values with
    | [] | [_] | [_, _] | [_, _, _] => rfl
    | _ :: _ :: _ :: _ :: rest => simp

/-- An outline is taken for an envelope exactly if it reads as one. -/
lemma ofOutline?_eq_some_iff {o : Json.Outline} : ofOutline? o = some e ↔ Reads o e := by
  cases o with
  | scalar token =>
    constructor
    · intro h
      cases h
    · intro h
      cases h
  | object members =>
    show members.foldlM add? empty = some e ↔ _
    rw [foldlM_add?_eq_some_iff]
    constructor
    · rintro ⟨hkeys, hresult, herror, hid⟩
      exact .object hkeys hresult herror hid
    · intro h
      cases h with
      | object hkeys hresult herror hid => exact ⟨hkeys, hresult, herror, hid⟩
  | array items =>
    rw [ofOutline?_array, Option.bind_eq_some_iff]
    constructor
    · rintro ⟨values, hvalues, hread⟩
      split at hread
      case isTrue hlength =>
        cases hread
        exact .array (mapM_value?_eq_some_iff.mp hvalues) hlength
      case isFalse => cases hread
    · intro h
      cases h with
      | array hvalues hlength =>
        exact ⟨_, mapM_value?_eq_some_iff.mpr hvalues, if_pos hlength⟩

/-- An error that is read in an envelope can be read back, unless a floating point number occurs in
it. -/
lemma Reads.readable {o : Json.Outline} {error : Json} (h : Reads o e)
    (herror : e.error = some error) (hexact : error.Exact) : error.Readable Json.depthLimit := by
  have hitem : ∃ item : Json.Outline, item.value? memberDepth = some error := by
    cases h with
    | @object members _ _ _ hslot _ =>
      have hvalue : some error ∈ valuesOf "error" members := by
        rw [hslot, herror]
        exact List.mem_singleton_self _
      obtain ⟨m, -, hm⟩ := List.mem_map.mp hvalue
      exact ⟨m.2, hm⟩
    | @array items values hvalues _ =>
      have hvalue : some error ∈ items.map (Json.Outline.value? memberDepth) := by
        rw [hvalues]
        exact List.mem_map_of_mem (List.mem_of_getElem? herror)
      obtain ⟨item, -, hitem⟩ := List.mem_map.mp hvalue
      exact ⟨item, hitem⟩
  obtain ⟨item, hvalue⟩ := hitem
  exact (item.readable_of_value? hvalue hexact).mono (by decide)

/-! ## What does not matter -/

/-- An object reads as an envelope when its keys are text and the three members hold theirs. -/
lemma reads_object_iff : Reads (.object members) e ↔
    (∀ m ∈ members, (Json.stringValue? m.1).isSome) ∧ Holds "result" members e.result ∧
      Holds "error" members e.error ∧ Holds "id" members e.id := by
  rw [← ofOutline?_eq_some_iff, ← foldlM_add?_eq_some_iff]
  rfl

/-- A place holds the same value whatever the order of the members. -/
lemma holds_perm (h : members.Perm members') :
    Holds name members slot ↔ Holds name members' slot := by
  have hperm : (valuesOf name members).Perm (valuesOf name members') := (h.filter _).map _
  have hsame : ∀ {xs ys : List (Option Json)}, xs.Perm ys → xs = slot.toList.map some →
      ys = slot.toList.map some := by
    rintro xs ys hxs rfl
    cases slot with
    | none => exact List.nil_perm.mp hxs
    | some v => exact (List.singleton_perm.mp hxs).symm
  exact ⟨hsame hperm, hsame hperm.symm⟩

/-- A place does not depend on members with other names. -/
lemma holds_cons_of_ne (hkey : Json.stringValue? m.1 = some key) (hne : key ≠ name) :
    Holds name (m :: members) slot ↔ Holds name members slot := by
  unfold Holds valuesOf
  simp [hkey, hne]

/-- A first member with a value that can be read fills its place if no other member has its name. -/
lemma exists_holds_cons_iff (hkey : Json.stringValue? m.1 = some name)
    (hvalue : (m.2.value? memberDepth).isSome) :
    (∃ slot, Holds name (m :: members) slot) ↔ valuesOf name members = [] := by
  obtain ⟨v, hv⟩ := Option.isSome_iff_exists.mp hvalue
  have hcons : valuesOf name (m :: members) = some v :: valuesOf name members := by
    simp [valuesOf, hkey, hv]
  unfold Holds
  rw [hcons]
  constructor
  · rintro ⟨slot, hslot⟩
    cases slot with
    | none => cases hslot
    | some u => exact (List.cons.inj hslot).2
  · intro hnone
    rw [hnone]
    exact ⟨some v, rfl⟩

/-- Outlines that differ in what does not matter read as the same result and the same error. -/
lemma Differs.exists_reads_iff {o o' : Json.Outline} (h : Differs o o')
    (result error : Option Json) :
    (∃ id, Reads o ⟨result, error, id⟩) ↔ ∃ id, Reads o' ⟨result, error, id⟩ := by
  cases h with
  | order hperm => simp only [reads_object_iff, holds_perm hperm, hperm.mem_iff]
  | @other key name item members hkey hname =>
    have hne : name ≠ "result" ∧ name ≠ "error" ∧ name ≠ "id" := by simpa using hname
    have hplace : ∀ {place slot}, name ≠ place →
        (Holds place ((key, item) :: members) slot ↔ Holds place members slot) :=
      fun hplace => holds_cons_of_ne hkey hplace
    simp only [reads_object_iff, List.forall_mem_cons, hplace hne.1, hplace hne.2.1,
      hplace hne.2.2, hkey, Option.isSome_some, true_and]
  | @id key item item' members hkey hitem hitem' =>
    have hresult : ∀ item slot,
        Holds "result" ((key, item) :: members) slot ↔ Holds "result" members slot :=
      fun _ _ => holds_cons_of_ne hkey (by decide)
    have herror : ∀ item slot,
        Holds "error" ((key, item) :: members) slot ↔ Holds "error" members slot :=
      fun _ _ => holds_cons_of_ne hkey (by decide)
    simp only [reads_object_iff, List.forall_mem_cons, hresult, herror, exists_and_left,
      exists_holds_cons_iff (m := (key, item)) hkey hitem,
      exists_holds_cons_iff (m := (key, item')) hkey hitem']
  | @third first second item item' hitem hitem' =>
    obtain ⟨v, hv⟩ := Option.isSome_iff_exists.mp hitem
    obtain ⟨v', hv'⟩ := Option.isSome_iff_exists.mp hitem'
    simp only [← ofOutline?_eq_some_iff, ofOutline?_array, List.mapM_cons, List.mapM_nil, hv, hv']
    cases first.value? memberDepth <;> cases second.value? memberDepth <;> simp

end Envelope

/-! ## Error values -/

namespace Failure

/-- A code and a message are those of an error value. -/
structure Describes (error : Json) (code : Option Int) (message : String) : Prop where
  /-- There is a code exactly if the error is an object with an integer of 64 bits for one. -/
  code_iff : ∀ n, code = some n ↔ ∃ members, error = .object members ∧
    members.lookup "code" = some (.int n) ∧ -0x8000000000000000 ≤ n ∧ n < 0x8000000000000000
  /-- The message is the one of the object if that is a text. -/
  message_of_text : ∀ members text, error = .object members →
    members.lookup "message" = some (.string text) → message = text
  /-- Otherwise it is the error itself, as JSON. -/
  message_of_not_text : (∀ members text, error = .object members →
    members.lookup "message" ≠ some (.string text)) → message = error.compact
  /-- It is then a JSON text of the error, as long as no floating point number occurs in it. -/
  reads_back : (∀ members text, error = .object members →
    members.lookup "message" ≠ some (.string text)) → error.Exact →
      Json.ofText? message = some error

variable {error : Json} {code : Option Int} {message : String}

/-- Only the members of an object have values. -/
lemma get?_eq_some_iff {key : String} {v : Json} :
    error.get? key = some v ↔ ∃ members, error = .object members ∧ members.lookup key = some v := by
  cases error <;> simp [Json.get?]

/-- The code of an error is there exactly when it is an integer of 64 bits. -/
lemma bind_int64?_eq_some_iff {n : Int} :
    (error.get? "code").bind Json.int64? = some n ↔ ∃ members, error = .object members ∧
      members.lookup "code" = some (.int n) ∧
        -0x8000000000000000 ≤ n ∧ n < 0x8000000000000000 := by
  rw [Option.bind_eq_some_iff]
  constructor
  · rintro ⟨v, hv, hn⟩
    obtain ⟨members, herror, hlookup⟩ := get?_eq_some_iff.mp hv
    cases v with
    | int k =>
      obtain ⟨hrange, hk⟩ := Option.ite_none_right_eq_some.mp hn
      cases hk
      exact ⟨members, herror, hlookup, hrange⟩
    | _ => cases hn
  · rintro ⟨members, herror, hlookup, hrange⟩
    exact ⟨_, get?_eq_some_iff.mpr ⟨members, herror, hlookup⟩, if_pos hrange⟩

/-- The message of an error is there exactly when it is a text. -/
lemma bind_string?_eq_some_iff {text : String} :
    (error.get? "message").bind Json.string? = some text ↔ ∃ members, error = .object members ∧
      members.lookup "message" = some (.string text) := by
  rw [Option.bind_eq_some_iff, ← get?_eq_some_iff]
  constructor
  · rintro ⟨v, hv, htext⟩
    cases v with
    | string t =>
      cases htext
      exact hv
    | _ => cases htext
  · intro h
    exact ⟨_, h, rfl⟩

/-- An error whose message is no text has none. -/
lemma bind_string?_eq_none (hnot : ∀ members text, error = .object members →
    members.lookup "message" ≠ some (.string text)) :
    (error.get? "message").bind Json.string? = none := by
  rw [Option.eq_none_iff_forall_ne_some]
  intro text htext
  obtain ⟨members, herror, hlookup⟩ := bind_string?_eq_some_iff.mp htext
  exact hnot members text herror hlookup

/-- The failure of an error value has its code and its message. -/
lemma ofErrorValue_eq_iff (hread : error.Exact → error.Readable Json.depthLimit) :
    ofErrorValue error = .rpc code message ↔ Describes error code message := by
  unfold ofErrorValue
  constructor
  · intro h
    obtain ⟨rfl, rfl⟩ := Failure.rpc.inj h
    refine ⟨fun n => bind_int64?_eq_some_iff, ?_, ?_, ?_⟩
    · intro members text herror hlookup
      rw [bind_string?_eq_some_iff.mpr ⟨members, herror, hlookup⟩]
      rfl
    · intro hnot
      rw [bind_string?_eq_none hnot, Option.getD_none]
    · intro hnot hexact
      rw [bind_string?_eq_none hnot, Option.getD_none]
      exact Json.ofText?_compact (hread hexact)
  · intro h
    have hcode : (error.get? "code").bind Json.int64? = code := by
      ext n
      rw [bind_int64?_eq_some_iff, h.code_iff]
    rw [hcode]
    congr 1
    cases htext : (error.get? "message").bind Json.string? with
    | some text =>
      obtain ⟨members, herror, hlookup⟩ := bind_string?_eq_some_iff.mp htext
      exact (h.message_of_text members text herror hlookup).symm
    | none =>
      refine (h.message_of_not_text ?_).symm
      intro members text herror hlookup
      cases htext.symm.trans (bind_string?_eq_some_iff.mpr ⟨members, herror, hlookup⟩)

end Failure

/-! ## Outcomes -/

namespace OverHttp

/-- A body reads as an envelope with this result and this error. -/
def IsEnvelope (body : List UInt8) (result error : Option Json) : Prop :=
  ∃ o id, Json.Outline.ofBytes? body = some o ∧ Envelope.Reads o ⟨result, error, id⟩

/-- What a status and a complete body stand for. -/
inductive Decodes (status : Nat) (body : List UInt8) : Result Json → Prop
  /-- The status does not stand for success; the body does not matter. -/
  | refused : (status < 200 ∨ 300 ≤ status) → Decodes status body (.error (.httpStatus status))
  /-- The body does not read as an envelope. -/
  | undecodable : 200 ≤ status → status < 300 →
    (∀ result error, ¬ IsEnvelope body result error) → Decodes status body (.error undecodable)
  /-- There is an error that is not null. -/
  | failure {result : Option Json} {error : Json} {code : Option Int} {message : String} :
    200 ≤ status → status < 300 → IsEnvelope body result (some error) → error ≠ .null →
    Failure.Describes error code message → Decodes status body (.error (.rpc code message))
  /-- There is no error, and a missing result is null. -/
  | value {result error : Option Json} : 200 ≤ status → status < 300 →
    IsEnvelope body result error → (∀ v, error = some v → v = .null) →
    Decodes status body (.ok (result.getD .null))

variable {status : Nat} {body : List UInt8}

/-- A body is an envelope with a result and an error exactly when the decoder reads one. -/
lemma isEnvelope_iff {result error : Option Json} :
    IsEnvelope body result error ↔ ∃ id, Envelope.ofBytes? body = some ⟨result, error, id⟩ := by
  unfold IsEnvelope Envelope.ofBytes?
  simp only [Option.bind_eq_some_iff, Envelope.ofOutline?_eq_some_iff]
  constructor
  · rintro ⟨o, id, ho, hreads⟩
    exact ⟨id, o, ho, hreads⟩
  · rintro ⟨id, o, ho, hreads⟩
    exact ⟨o, id, ho, hreads⟩

/-- An error in the envelope of a body can be read back. -/
lemma IsEnvelope.readable {result : Option Json} {error : Json}
    (h : IsEnvelope body result (some error)) (hexact : error.Exact) :
    error.Readable Json.depthLimit := by
  obtain ⟨o, id, -, hreads⟩ := h
  exact hreads.readable rfl hexact

/-- The successful statuses are those from 200 to 299. -/
lemma isSuccess_iff : Http.Status.isSuccess status = true ↔ 200 ≤ status ∧ status < 300 := by
  simp [Http.Status.isSuccess]
  omega

/-- An error other than null is the outcome of an envelope. -/
lemma outcome_of_error {error : Json} (hnull : error ≠ .null) (result id : Option Json) :
    Envelope.outcome ⟨result, some error, id⟩ = .error (.ofErrorValue error) := by
  have hkept : (some error).filter (fun v => !v.isNull) = some error := by
    rw [Option.filter_some, if_pos]
    rw [Bool.not_eq_true', Bool.eq_false_iff, Ne, Json.isNull_eq_true_iff]
    exact hnull
  unfold Envelope.outcome
  dsimp only
  rw [hkept]

/-- Without an error other than null the outcome of an envelope is its result. -/
lemma outcome_of_no_error {error : Option Json} (hnull : ∀ v, error = some v → v = .null)
    (result id : Option Json) :
    Envelope.outcome ⟨result, error, id⟩ = .ok (result.getD .null) := by
  cases error with
  | none => rfl
  | some v =>
    obtain rfl := hnull v rfl
    rfl

/-- Any other status is the failure, whatever the body. -/
lemma outcome_of_refused (hstatus : status < 200 ∨ 300 ≤ status) (body : List UInt8) :
    outcome status body = .error (.httpStatus status) := by
  unfold outcome
  rw [if_neg]
  rw [isSuccess_iff]
  omega

/-- A successful status with a body that is no envelope cannot be decoded. -/
lemma outcome_of_no_envelope (hle : 200 ≤ status) (hlt : status < 300)
    (hnot : ∀ result error, ¬ IsEnvelope body result error) :
    outcome status body = .error undecodable := by
  unfold outcome
  rw [if_pos (isSuccess_iff.mpr ⟨hle, hlt⟩)]
  cases hbody : Envelope.ofBytes? body with
  | none => rfl
  | some e => exact absurd (isEnvelope_iff.mpr ⟨e.id, hbody⟩) (hnot e.result e.error)

/-- A successful status with an envelope has the outcome of the envelope. -/
lemma outcome_of_envelope (hle : 200 ≤ status) (hlt : status < 300) {e : Envelope}
    (hbody : Envelope.ofBytes? body = some e) : outcome status body = e.outcome := by
  unfold outcome
  rw [if_pos (isSuccess_iff.mpr ⟨hle, hlt⟩), hbody]

/-- What a status and a body stand for is what they are decoded to, and nothing else. -/
lemma decodes_iff {out : Result Json} : Decodes status body out ↔ outcome status body = out := by
  constructor
  · intro h
    cases h with
    | refused hstatus => exact outcome_of_refused hstatus body
    | undecodable hle hlt hnot => exact outcome_of_no_envelope hle hlt hnot
    | failure hle hlt henvelope hnull hdescribes =>
      obtain ⟨id, hbody⟩ := isEnvelope_iff.mp henvelope
      rw [outcome_of_envelope hle hlt hbody, outcome_of_error hnull,
        (Failure.ofErrorValue_eq_iff henvelope.readable).mpr hdescribes]
    | value hle hlt henvelope hnone =>
      obtain ⟨id, hbody⟩ := isEnvelope_iff.mp henvelope
      rw [outcome_of_envelope hle hlt hbody, outcome_of_no_error hnone]
  · rintro rfl
    by_cases hstatus : 200 ≤ status ∧ status < 300
    case neg =>
      have hrefused : status < 200 ∨ 300 ≤ status := by omega
      rw [outcome_of_refused hrefused]
      exact .refused hrefused
    obtain ⟨hle, hlt⟩ := hstatus
    by_cases hbody : ∃ result error, IsEnvelope body result error
    case neg =>
      have hnot : ∀ result error, ¬ IsEnvelope body result error := by simpa using hbody
      rw [outcome_of_no_envelope hle hlt hnot]
      exact .undecodable hle hlt hnot
    obtain ⟨result, error, henvelope⟩ := hbody
    obtain ⟨id, hid⟩ := isEnvelope_iff.mp henvelope
    rw [outcome_of_envelope hle hlt hid]
    by_cases hnone : ∀ v, error = some v → v = .null
    · rw [outcome_of_no_error hnone]
      exact .value hle hlt henvelope hnone
    · obtain ⟨v, rfl, hnull⟩ : ∃ v, error = some v ∧ v ≠ .null := by simpa using hnone
      rw [outcome_of_error hnull]
      exact .failure hle hlt henvelope hnull
        ((Failure.ofErrorValue_eq_iff henvelope.readable).mp rfl)

/-! ## What the outcome does not depend on -/

/-- Two bodies are JSON texts of which the outlines differ only in what does not matter. -/
def Alike (body other : List UInt8) : Prop :=
  ∃ o o', Json.Outline.ofBytes? body = some o ∧ Json.Outline.ofBytes? other = some o' ∧
    Relation.EqvGen Envelope.Differs o o'

variable {other : List UInt8} {out : Result Json}

/-- Such outlines read as the same result and the same error. -/
lemma exists_reads_iff_of_eqvGen {o o' : Json.Outline} (h : Relation.EqvGen Envelope.Differs o o')
    (result error : Option Json) :
    (∃ id, Envelope.Reads o ⟨result, error, id⟩) ↔ ∃ id, Envelope.Reads o' ⟨result, error, id⟩ := by
  induction h with
  | rel _ _ hdiffers => exact hdiffers.exists_reads_iff result error
  | refl => rfl
  | symm _ _ _ ih => exact ih.symm
  | trans _ _ _ _ _ ih ih' => exact ih.trans ih'

/-- Being alike goes both ways. -/
lemma Alike.symm (h : Alike body other) : Alike other body := by
  obtain ⟨o, o', ho, ho', hdiffer⟩ := h
  exact ⟨o', o, ho', ho, hdiffer.symm⟩

/-- Bodies that are alike are the same envelope. -/
lemma Alike.isEnvelope (h : Alike body other) {result error : Option Json}
    (henvelope : IsEnvelope body result error) : IsEnvelope other result error := by
  obtain ⟨o, o', ho, ho', hdiffer⟩ := h
  obtain ⟨outline, id, houtline, hreads⟩ := henvelope
  obtain rfl := Option.some.inj (ho.symm.trans houtline)
  obtain ⟨id', hreads'⟩ := (exists_reads_iff_of_eqvGen hdiffer result error).mp ⟨id, hreads⟩
  exact ⟨o', id', ho', hreads'⟩

/-- Bodies that differ only in what does not matter stand for the same. -/
lemma Decodes.of_alike (h : Decodes status body out) (halike : Alike body other) :
    Decodes status other out := by
  cases h with
  | refused hstatus => exact .refused hstatus
  | undecodable hle hlt hnot =>
    exact .undecodable hle hlt fun result error henvelope =>
      hnot result error (halike.symm.isEnvelope henvelope)
  | failure hle hlt henvelope hnull hdescribes =>
    exact .failure hle hlt (halike.isEnvelope henvelope) hnull hdescribes
  | value hle hlt henvelope hnone => exact .value hle hlt (halike.isEnvelope henvelope) hnone

/-! ## Requests over HTTP -/

/-- **Responses are decoded by status, shape and error.** Over any network, a request that gets a
complete response within its deadline ends as the status and the body say, and `Decodes` leaves one
end to each of them: a failure by the status if that does not stand for success, a body that is no
envelope, the code and the message of an error other than null, and else the result. No other
member, no identifier and no order of the members changes this. -/
theorem send_decodes_response {σ : Type} (net : Http.Network σ) (identifier : σ → String) (s : σ)
    (endpoint : Endpoint) (request : Request) {sent : Http.Request} {origin : Http.Origin}
    {url : String} {r : Http.Response} {body : List UInt8}
    (hprepare : Http.Client.prepare (draft (identifier s) endpoint request) =
      .ok (sent, origin, url))
    (htimeout : endpoint.timeout ≠ .zero)
    (hresponse : (net.exchange s origin sent).1 = .response r)
    (hin : net.latency (net.exchange s origin sent).2 ≤ endpoint.timeout.timerMillis)
    (hbody : r.content? = some body) :
    ∃ out, (((transport net identifier).send s endpoint request).1.settle endpoint.timeout).ending =
        .result out ∧
      ∀ x, (Decodes r.status body x ↔ x = out) ∧
        ∀ other, Alike body other → (Decodes r.status other x ↔ x = out) := by
  have hsend : ((transport net identifier).send s endpoint request).1 =
      ⟨net.latency (net.exchange s origin sent).2, .result (outcome r.status body)⟩ := by
    show (post net (identifier s) s endpoint request).1 = _
    unfold post Http.Client.perform
    simp only [hprepare, if_neg htimeout, hresponse, Http.Client.Outcome.ofExchange, reply, result,
      hbody]
  refine ⟨outcome r.status body, ?_, ?_⟩
  · rw [hsend, Answer.settle, if_pos hin]
  · intro x
    refine ⟨decodes_iff.trans eq_comm, ?_⟩
    intro other halike
    constructor
    · intro h
      exact (decodes_iff.mp (h.of_alike halike.symm)).symm
    · rintro rfl
      exact (decodes_iff.mpr rfl).of_alike halike

/-- A success with an error that has a code and a message: the request ends in this error. -/
theorem send_decodes_response_with_error :
    let body :=
      "\x7b\"id\":7,\"error\":\x7b\"code\":-28,\"message\":\"Loading\"\x7d\x7d".toUTF8.toList
    let net : Http.Network Unit := ⟨fun s _ _ => (.response ⟨200, none, body, 0⟩, s), fun _ => 5⟩
    let endpoint : Endpoint := .ofConfig (.ofUrl "http://[::1]/")
    ∃ sent origin url,
      Http.Client.prepare (draft "1" endpoint ⟨"ping", []⟩) = .ok (sent, origin, url) ∧
        endpoint.timeout ≠ .zero ∧
        (((transport net fun _ => "1").send () endpoint ⟨"ping", []⟩).1.settle
          endpoint.timeout).ending = .result (.error (.rpc (some (-28)) "Loading")) := by
  intro body net endpoint
  have hready : (Http.Client.prepare (draft "1" endpoint ⟨"ping", []⟩)).toOption.isSome = true := by
    decide +kernel
  cases hprepare : Http.Client.prepare (draft "1" endpoint ⟨"ping", []⟩) with
  | error problem =>
    rw [hprepare] at hready
    cases hready
  | ok prepared =>
    obtain ⟨sent, origin, url⟩ := prepared
    have htimeout : endpoint.timeout ≠ .zero := by decide
    obtain ⟨out, hending, hdecodes⟩ := send_decodes_response net (fun _ => "1") () endpoint
      ⟨"ping", []⟩ hprepare htimeout rfl (show 5 ≤ endpoint.timeout.timerMillis by decide) rfl
    have hfailure : (match outcome 200 body with
        | .error failure => some failure
        | .ok _ => none) = some (.rpc (some (-28)) "Loading") := by
      decide +kernel
    have hout : outcome 200 body = .error (.rpc (some (-28)) "Loading") := by
      split at hfailure
      case h_1 failure hfailed =>
        rw [hfailed, Option.some.inj hfailure]
      case h_2 => cases hfailure
    refine ⟨sent, origin, url, rfl, htimeout, ?_⟩
    rw [hending, ← (hdecodes _).1.mp (decodes_iff.mpr hout)]

end OverHttp

end Rpc

end Failover
