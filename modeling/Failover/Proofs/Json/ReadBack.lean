import Failover.Proofs.Json.Outlines
import Mathlib.Data.List.Basic
import Mathlib.Data.List.Induction

/-!
# Values read back

The compact text of a value is read as the value: `Json.ofText?_compact`. This holds of what a text
can stand for at all (`Readable`): integers of 64 bits, objects with their members in order and each
key once, and no more containers open at once than a reader allows. It leaves out floating point
numbers, of which the text is not followed here.

Whatever a text is read as is of this kind (`Outline.readable_of_value?`), so a value without
floating point numbers that was read from some text is read again from its compact one.
-/

namespace Failover

namespace Json

/-- A property of every value is shown for a container from its contents. -/
@[elab_as_elim]
theorem contents_induction {P : Json → Prop} (null : P .null) (bool : ∀ b, P (.bool b))
    (int : ∀ n, P (.int n)) (float : ∀ x, P (.float x)) (string : ∀ s, P (.string s))
    (array : ∀ items : List Json, (∀ v ∈ items, P v) → P (.array items))
    (object : ∀ members : List (String × Json), (∀ m ∈ members, P m.2) → P (.object members))
    (v : Json) : P v :=
  @Json.rec P (fun items => ∀ v ∈ items, P v) (fun members => ∀ m ∈ members, P m.2)
    (fun m => P m.2) null bool int float string array object
    (fun _ h => absurd h List.not_mem_nil)
    (fun _ _ hv hitems => List.forall_mem_cons.mpr ⟨hv, hitems⟩)
    (fun _ h => absurd h List.not_mem_nil)
    (fun _ _ hm hmembers => List.forall_mem_cons.mpr ⟨hm, hmembers⟩)
    (fun _ _ hv => hv) v

/-- The outline of the compact text of a value. -/
def outline : Json → Outline
  | .null => .scalar .null
  | .bool b => .scalar (.truth b)
  | .int n => .scalar (.number (octets (toString n)))
  | .float x => .scalar (.number (octets (floatText x)))
  | .string s => .scalar (.string (escaped s))
  | .array items => .array (items.map outline)
  | .object members => .object (members.map fun m => (escaped m.1, outline m.2))
decreasing_by
  · have hlt := List.sizeOf_lt_of_mem ‹_ ∈ items›
    simp
    omega
  · have hlt := List.sizeOf_lt_of_mem ‹m ∈ members›
    obtain ⟨k, v⟩ := m
    simp at hlt ⊢
    omega

/-! ## The compact text -/

/-- The texts of the items of an array are those of its values. -/
lemma compactItems_eq_map (items : List Json) : compactItems items = items.map compact := by
  induction items with
  | nil => rfl
  | cons v items ih => rw [compactItems, ih, List.map_cons]

/-- The text of a member is its key, a colon and its value. -/
lemma compactMembers_eq_map (members : List (String × Json)) :
    compactMembers members = members.map fun m => quote m.1 ++ ":" ++ compact m.2 := by
  induction members with
  | nil => rfl
  | cons m members ih =>
    obtain ⟨k, v⟩ := m
    rw [compactMembers, ih, List.map_cons]

/-- Texts that are joined by commas, octet by octet. -/
lemma octets_intercalate (text : String) (texts : List String) :
    octets (",".intercalate (text :: texts)) =
      octets text ++ texts.flatMap fun t => 44 :: octets t := by
  have hcomma : octets "," = [44] := by rw [octets_eq]; decide
  induction texts generalizing text with
  | nil => rw [String.intercalate_singleton, List.flatMap_nil, List.append_nil]
  | cons next texts ih =>
    rw [String.intercalate_cons_cons, octets_append, octets_append, hcomma, ih, List.flatMap_cons,
      List.append_assoc]
    rfl

namespace Outline

/-- The text of an array that is not empty. -/
lemma octets_array (item : Outline) (items : List Outline) :
    octets (.array (item :: items)) =
      91 :: item.octets ++ (items.flatMap fun o => 44 :: o.octets) ++ [93] := by
  have htail : octetsOf (itemsTail items) = (items.flatMap fun o => 44 :: o.octets) ++ [93] := by
    induction items with
    | nil => rfl
    | cons item items ih =>
      rw [itemsTail, octetsOf_cons, octetsOf_append, ih, List.flatMap_cons, List.append_assoc]
      rfl
  show 91 :: octetsOf (item.tokens ++ itemsTail items) = _
  rw [octetsOf_append, htail, ← List.append_assoc]
  rfl

/-- The text of a member. -/
def memberOctets (m : List UInt8 × Outline) : List UInt8 := 34 :: m.1 ++ 34 :: 58 :: m.2.octets

/-- The text of an object that is not empty. -/
lemma octets_object (m : List UInt8 × Outline) (members : List (List UInt8 × Outline)) :
    octets (.object (m :: members)) =
      123 :: memberOctets m ++ (members.flatMap fun m => 44 :: memberOctets m) ++ [125] := by
  have hmember : ∀ (m : List UInt8 × Outline) (tail : List Token),
      octetsOf (.string m.1 :: .colon :: (m.2.tokens ++ tail)) =
        memberOctets m ++ octetsOf tail := by
    intro m tail
    simp [Token.octets, memberOctets, octets]
  have htail : octetsOf (membersTail members) =
      (members.flatMap fun m => 44 :: memberOctets m) ++ [125] := by
    induction members with
    | nil => rfl
    | cons m members ih =>
      rw [membersTail, octetsOf_cons, hmember, ih, List.flatMap_cons, List.append_assoc]
      rfl
  show 123 :: octetsOf (.string m.1 :: .colon :: (m.2.tokens ++ membersTail members)) = _
  rw [hmember, htail, ← List.append_assoc]
  rfl

end Outline

/-- The octets of the compact text of a value are those of its outline. -/
lemma octets_compact (v : Json) : octets v.compact = v.outline.octets := by
  induction v using contents_induction with
  | null =>
    rw [compact, outline, octets_eq]
    decide
  | bool b =>
    rw [compact, outline]
    cases b <;> rw [octets_eq] <;> decide
  | int n => simp [compact, outline, Outline.octets, Outline.tokens, Token.octets]
  | float x => simp [compact, outline, Outline.octets, Outline.tokens, Token.octets]
  | string s =>
    simp [compact, outline, Outline.octets, Outline.tokens, Token.octets, octets_quote]
  | array items ih =>
    have hbrackets : octets "[" = [91] ∧ octets "]" = [93] := by
      constructor <;> rw [octets_eq] <;> decide
    rw [compact, outline, compactItems_eq_map, octets_append, octets_append, hbrackets.1,
      hbrackets.2]
    cases items with
    | nil =>
      rw [List.map_nil, List.map_nil, String.intercalate_nil, octets_eq]
      rfl
    | cons v items =>
      obtain ⟨hv, hitems⟩ := List.forall_mem_cons.mp ih
      have hrest : items.flatMap (fun w => 44 :: octets w.compact) =
          items.flatMap fun w => 44 :: w.outline.octets :=
        List.flatMap_congr fun w hw => by rw [hitems w hw]
      rw [List.map_cons, List.map_cons, octets_intercalate, Outline.octets_array, List.flatMap_map,
        List.flatMap_map, hv, hrest]
      rfl
  | object members ih =>
    have hbraces : octets "\x7b" = [123] ∧ octets "\x7d" = [125] := by
      constructor <;> rw [octets_eq] <;> decide
    have hcolon : octets ":" = [58] := by rw [octets_eq]; decide
    rw [compact, outline, compactMembers_eq_map, octets_append, octets_append, hbraces.1,
      hbraces.2]
    have hmember : ∀ m ∈ members, octets (quote m.1 ++ ":" ++ compact m.2) =
        Outline.memberOctets (escaped m.1, outline m.2) := by
      intro m hm
      rw [octets_append, octets_append, octets_quote, hcolon, ih m hm]
      simp [Outline.memberOctets]
    cases members with
    | nil =>
      rw [List.map_nil, List.map_nil, String.intercalate_nil, octets_eq]
      rfl
    | cons m members =>
      obtain ⟨hm, hmembers⟩ := List.forall_mem_cons.mp hmember
      have hrest : members.flatMap (fun m => 44 :: octets (quote m.1 ++ ":" ++ compact m.2)) =
          members.flatMap fun m => 44 :: Outline.memberOctets (escaped m.1, outline m.2) :=
        List.flatMap_congr fun m hm => by rw [hmembers m hm]
      rw [List.map_cons, List.map_cons, octets_intercalate, Outline.octets_object, List.flatMap_map,
        List.flatMap_map, hm, hrest]
      rfl

/-! ## Reading -/

/-- A value that a text can stand for, without floating point numbers and with at most `depth`
containers open at once. -/
inductive Readable : Nat → Json → Prop
  | null {depth : Nat} : Readable depth .null
  | bool {depth : Nat} (b : Bool) : Readable depth (.bool b)
  /-- An integer that 64 bits hold, with or without a sign. -/
  | int {depth : Nat} {n : Int} : -0x8000000000000000 ≤ n → n < 0x10000000000000000 →
    Readable depth (.int n)
  | string {depth : Nat} (s : String) : Readable depth (.string s)
  | array {depth : Nat} {items : List Json} : (∀ v ∈ items, Readable depth v) →
    Readable (depth + 1) (.array items)
  /-- The members stand in the order of their keys, each key once. -/
  | object {depth : Nat} {members : List (String × Json)} :
    members.Pairwise (fun m m' => m.1 < m'.1) → (∀ m ∈ members, Readable depth m.2) →
    Readable (depth + 1) (.object members)

variable {depth : Nat} {v : Json}

/-- A value that is not nested too deep for one reader is not for a more lenient one. -/
lemma Readable.mono (h : Readable depth v) {limit : Nat} (hle : depth ≤ limit) :
    Readable limit v := by
  induction h generalizing limit with
  | null => exact .null
  | bool b => exact .bool b
  | int hlow hhigh => exact .int hlow hhigh
  | string s => exact .string s
  | array _ ih =>
    obtain ⟨limit, rfl⟩ := Nat.exists_eq_add_of_lt hle
    exact .array fun v hv => ih v hv (by omega)
  | object hsorted _ ih =>
    obtain ⟨limit, rfl⟩ := Nat.exists_eq_add_of_lt hle
    exact .object hsorted fun m hm => ih m hm (by omega)

/-- Every scalar of such a value can be told from what stands behind it. -/
lemma Readable.legible (h : Readable depth v) : v.outline.Legible := by
  induction h with
  | null =>
    rw [outline]
    exact .scalar Token.legible_null
  | bool b =>
    rw [outline]
    exact .scalar (Token.legible_truth b)
  | int =>
    rw [outline]
    exact .scalar (Token.legible_number _)
  | string s =>
    rw [outline]
    exact .scalar (Token.legible_string s)
  | array _ ih =>
    rw [outline]
    refine .array ?_
    intro item hitem
    obtain ⟨v, hv, rfl⟩ := List.mem_map.mp hitem
    exact ih v hv
  | object _ _ ih =>
    rw [outline]
    refine .object ?_ ?_
    · intro m hm
      obtain ⟨m', _, rfl⟩ := List.mem_map.mp hm
      exact Token.legible_string m'.1
    · intro m hm
      obtain ⟨m', hm', rfl⟩ := List.mem_map.mp hm
      exact ih m' hm'

/-- A member with a new last key is put behind the others. -/
lemma insertMember_of_lt {key : String} {members : List (String × Json)}
    (h : ∀ m ∈ members, m.1 < key) : insertMember key v members = members ++ [(key, v)] := by
  induction members with
  | nil => rfl
  | cons m members ih =>
    obtain ⟨hm, hmembers⟩ := List.forall_mem_cons.mp h
    have hnot : ¬ key < m.1 := String.lt_asymm hm
    have hne : key ≠ m.1 := (String.ne_of_lt hm).symm
    rw [insertMember, if_neg hnot, if_neg hne, ih hmembers, List.cons_append]

/-- Members that stand in the order of their keys keep their places. -/
lemma ofMembers_of_pairwise {members : List (String × Json)}
    (h : members.Pairwise fun m m' => m.1 < m'.1) : ofMembers members = .object members := by
  unfold ofMembers
  congr 1
  induction members using List.reverseRecOn with
  | nil => rfl
  | append_singleton members m ih =>
    obtain ⟨hmembers, -, hlast⟩ := List.pairwise_append.mp h
    rw [List.foldl_append, ih hmembers]
    exact insertMember_of_lt fun m' hm' => hlast m' hm' m (List.mem_singleton_self m)

/-- If the outline of every item has the item for its value, so have the outlines of all of them. -/
lemma values?_outlines {items : List Json} (h : ∀ v ∈ items, v.outline.value? depth = some v) :
    Outline.values? depth (items.map outline) = some items := by
  induction items with
  | nil => rfl
  | cons v items ih =>
    obtain ⟨hv, hitems⟩ := List.forall_mem_cons.mp h
    rw [List.map_cons, Outline.values?, hv, ih hitems]
    rfl

/-- If the outline of the value of every member has it for its value, the members are read. -/
lemma memberValues?_outlines {members : List (String × Json)}
    (h : ∀ m ∈ members, m.2.outline.value? depth = some m.2) :
    Outline.memberValues? depth (members.map fun m => (escaped m.1, outline m.2)) =
      some members := by
  induction members with
  | nil => rfl
  | cons m members ih =>
    obtain ⟨hm, hmembers⟩ := List.forall_mem_cons.mp h
    rw [List.map_cons, Outline.memberValues?, stringValue?_escaped, hm, ih hmembers]
    rfl

/-- The outline of such a value has it for its value. -/
lemma Readable.value?_outline (h : Readable depth v) : v.outline.value? depth = some v := by
  induction h with
  | null => rw [outline]; rfl
  | bool b => rw [outline]; rfl
  | int hlow hhigh =>
    rw [outline]
    exact numberValue?_toString hlow hhigh
  | string s =>
    rw [outline, Outline.value?, scalarValue?, stringValue?_escaped]
    rfl
  | array _ ih =>
    rw [outline, Outline.value?, values?_outlines ih]
    rfl
  | object hsorted _ ih =>
    rw [outline, Outline.value?, memberValues?_outlines ih, Option.map_some,
      ofMembers_of_pairwise hsorted]

/-- **A value reads back from its compact text.** -/
theorem ofText?_compact (h : Readable depthLimit v) : ofText? v.compact = some v := by
  show ofBytes? (octets v.compact) = _
  unfold ofBytes?
  rw [octets_compact, Outline.ofBytes?_octets h.legible]
  exact h.value?_outline

/-! ## What is read can be read back -/

/-- No floating point number occurs in the value. -/
inductive Exact : Json → Prop
  | null : Exact .null
  | bool (b : Bool) : Exact (.bool b)
  | int (n : Int) : Exact (.int n)
  | string (s : String) : Exact (.string s)
  | array {items : List Json} : (∀ v ∈ items, Exact v) → Exact (.array items)
  | object {members : List (String × Json)} : (∀ m ∈ members, Exact m.2) → Exact (.object members)

/-- The digits of a whole part make a significand of 64 bits. -/
lemma Digits.significand_ofWhole_lt (whole : List UInt8) :
    (Digits.ofWhole whole).significand < 0x10000000000000000 := by
  have hadd : ∀ (d : Digits) (b : UInt8), d.significand < 0x10000000000000000 →
      (d.addWhole b).significand < 0x10000000000000000 := by
    intro d b hd
    unfold Digits.addWhole
    split
    case isTrue => exact hd
    case isFalse hfits =>
      rw [not_or] at hfits
      exact Nat.lt_of_not_le hfits.2
  unfold Digits.ofWhole
  induction whole using List.reverseRecOn with
  | nil => decide
  | append_singleton whole b ih =>
    rw [List.foldl_append]
    exact hadd _ b ih

/-- A number that is read is an integer of 64 bits or a floating point number. -/
lemma numberValue?_cases {written : List UInt8} (h : numberValue? written = some v) :
    (∃ n, v = .int n ∧ -0x8000000000000000 ≤ n ∧ n < 0x10000000000000000) ∨ ∃ x, v = .float x := by
  unfold numberValue? at h
  extract_lets negative unsigned whole rest hasFraction fraction exponent signed digits digits' at h
  have hbits : digits.significand < 0x10000000000000000 := Digits.significand_ofWhole_lt whole
  -- Whatever goes through `signed` is a floating point number.
  have hsigned : ∀ {x : Option Float}, x.map signed = some v → ∃ x, v = .float x := by
    intro x hx
    obtain ⟨y, -, rfl⟩ := Option.map_eq_some_iff.mp hx
    exact ⟨_, rfl⟩
  split at h
  case isFalse =>
    split at h
    · exact .inr (hsigned h)
    · exact .inr (hsigned h)
  split at h
  case isTrue => exact .inr (hsigned h)
  split at h
  case isTrue =>
    cases h
    exact .inl ⟨_, rfl, by omega, by omega⟩
  split at h
  case isTrue =>
    cases h
    exact .inr ⟨_, rfl⟩
  case isFalse hrange =>
    cases h
    exact .inl ⟨_, rfl, by omega, by omega⟩

/-! ### Members in the order of their keys -/

/-- The members after one more is put in its place are this one and old ones. -/
lemma mem_insertMember {key : String} {members : List (String × Json)} {m : String × Json}
    (h : m ∈ insertMember key v members) : m = (key, v) ∨ m ∈ members := by
  induction members with
  | nil => exact .inl (List.mem_singleton.mp h)
  | cons m' members ih =>
    rw [insertMember] at h
    split at h
    · exact List.mem_cons.mp h
    split at h
    · rcases List.mem_cons.mp h with hm | hm
      · exact .inl hm
      · exact .inr (List.mem_cons_of_mem _ hm)
    · rcases List.mem_cons.mp h with rfl | hm
      · exact .inr List.mem_cons_self
      · exact (ih hm).imp_right (List.mem_cons_of_mem _)

/-- Putting a member in its place keeps the order. -/
lemma pairwise_insertMember {key : String} {members : List (String × Json)}
    (h : members.Pairwise fun m m' => m.1 < m'.1) :
    (insertMember key v members).Pairwise fun m m' => m.1 < m'.1 := by
  induction members with
  | nil => exact List.pairwise_singleton _ _
  | cons m members ih =>
    obtain ⟨hfirst, hmembers⟩ := List.pairwise_cons.mp h
    rw [insertMember]
    split
    case isTrue hlt =>
      refine List.pairwise_cons.mpr ⟨?_, h⟩
      intro m' hm'
      rcases List.mem_cons.mp hm' with rfl | hm'
      · exact hlt
      · exact String.lt_trans hlt (hfirst m' hm')
    split
    case isTrue heq =>
      subst heq
      exact List.pairwise_cons.mpr ⟨hfirst, hmembers⟩
    case isFalse hnot hne =>
      refine List.pairwise_cons.mpr ⟨?_, ih hmembers⟩
      intro m' hm'
      rcases mem_insertMember hm' with rfl | hm'
      · exact Std.lt_of_le_of_ne (String.not_lt.mp hnot) (Ne.symm hne)
      · exact hfirst m' hm'

/-- The members of an object that is made of a list of members are in order and from the list. -/
lemma exists_ofMembers_eq (members : List (String × Json)) :
    ∃ sorted, ofMembers members = .object sorted ∧
      sorted.Pairwise (fun m m' => m.1 < m'.1) ∧ ∀ m ∈ sorted, m ∈ members := by
  refine ⟨_, rfl, ?_⟩
  induction members using List.reverseRecOn with
  | nil => exact ⟨List.Pairwise.nil, fun _ h => h⟩
  | append_singleton members m ih =>
    obtain ⟨hsorted, hmem⟩ := ih
    rw [List.foldl_append]
    refine ⟨pairwise_insertMember hsorted, ?_⟩
    intro m' hm'
    rcases mem_insertMember hm' with rfl | hm'
    · exact List.mem_append_right _ List.mem_cons_self
    · exact List.mem_append_left _ (hmem m' hm')

namespace Outline

/-- A property of every outline is shown for a container from its contents. -/
@[elab_as_elim]
theorem contents_induction {P : Outline → Prop} (scalar : ∀ t, P (.scalar t))
    (array : ∀ items : List Outline, (∀ o ∈ items, P o) → P (.array items))
    (object : ∀ members : List (List UInt8 × Outline), (∀ m ∈ members, P m.2) → P (.object members))
    (o : Outline) : P o :=
  @Outline.rec P (fun items => ∀ o ∈ items, P o) (fun members => ∀ m ∈ members, P m.2)
    (fun m => P m.2) scalar array object
    (fun _ h => absurd h List.not_mem_nil)
    (fun _ _ ho hitems => List.forall_mem_cons.mpr ⟨ho, hitems⟩)
    (fun _ h => absurd h List.not_mem_nil)
    (fun _ _ hm hmembers => List.forall_mem_cons.mpr ⟨hm, hmembers⟩)
    (fun _ _ ho => ho) o

/-- Every value of the items of an array is that of an item. -/
lemma exists_of_mem_values? {items : List Outline} {values : List Json}
    (h : values? depth items = some values) (hv : v ∈ values) :
    ∃ o ∈ items, o.value? depth = some v := by
  induction items generalizing values with
  | nil =>
    cases h
    cases hv
  | cons item items ih =>
    rw [values?] at h
    cases hitem : item.value? depth with
    | none =>
      rw [hitem] at h
      cases h
    | some w =>
      rw [hitem] at h
      obtain ⟨rest, hrest, rfl⟩ := Option.map_eq_some_iff.mp h
      rcases List.mem_cons.mp hv with rfl | hv
      · exact ⟨item, List.mem_cons_self, hitem⟩
      · obtain ⟨o, ho, hvalue⟩ := ih hrest hv
        exact ⟨o, List.mem_cons_of_mem _ ho, hvalue⟩

/-- Every member of an object has the value of a member of its outline. -/
lemma exists_of_mem_memberValues? {members : List (List UInt8 × Outline)}
    {values : List (String × Json)} {m : String × Json}
    (h : memberValues? depth members = some values) (hm : m ∈ values) :
    ∃ o ∈ members, o.2.value? depth = some m.2 := by
  induction members generalizing values with
  | nil =>
    cases h
    cases hm
  | cons member members ih =>
    rw [memberValues?] at h
    split at h
    case h_1 k w _ hvalue =>
      obtain ⟨rest, hrest, rfl⟩ := Option.map_eq_some_iff.mp h
      rcases List.mem_cons.mp hm with rfl | hm
      · exact ⟨member, List.mem_cons_self, hvalue⟩
      · obtain ⟨o, ho, hread⟩ := ih hrest hm
        exact ⟨o, List.mem_cons_of_mem _ ho, hread⟩
    case h_2 => cases h

/-- A value that is read can be read back, unless a floating point number occurs in it. -/
theorem readable_of_value? {o : Outline} (h : o.value? depth = some v) (hexact : v.Exact) :
    Readable depth v := by
  induction o using contents_induction generalizing depth v with
  | scalar t =>
    rw [value?] at h
    cases t with
    | null =>
      cases h
      exact .null
    | truth b =>
      cases h
      exact .bool b
    | number written =>
      rcases numberValue?_cases h with ⟨n, rfl, hlow, hhigh⟩ | ⟨x, rfl⟩
      · exact .int hlow hhigh
      · cases hexact
    | string written =>
      obtain ⟨s, -, rfl⟩ := Option.map_eq_some_iff.mp h
      exact .string s
    | _ => cases h
  | array items ih =>
    cases depth with
    | zero => cases h
    | succ depth =>
      obtain ⟨values, hvalues, rfl⟩ := Option.map_eq_some_iff.mp h
      cases hexact with
      | array hexact =>
        refine .array ?_
        intro v hv
        obtain ⟨o, ho, hread⟩ := exists_of_mem_values? hvalues hv
        exact ih o ho hread (hexact v hv)
  | object members ih =>
    cases depth with
    | zero => cases h
    | succ depth =>
      obtain ⟨values, hvalues, rfl⟩ := Option.map_eq_some_iff.mp h
      obtain ⟨sorted, hobject, hsorted, hmem⟩ := exists_ofMembers_eq values
      rw [hobject] at hexact ⊢
      cases hexact with
      | object hexact =>
        refine .object hsorted ?_
        intro m hm
        obtain ⟨o, ho, hread⟩ := exists_of_mem_memberValues? hvalues (hmem m hm)
        exact ih o ho hread (hexact m hm)

end Outline

/-- A value without floating point numbers that is read from a text is read from its compact text
again. -/
theorem ofText?_compact_of_ofText? {text : String} (h : ofText? text = some v)
    (hexact : v.Exact) : ofText? v.compact = some v := by
  unfold ofText? ofBytes? at h
  split at h
  case h_1 => cases h
  case h_2 o _ => exact ofText?_compact (o.readable_of_value? h hexact)

end Json

end Failover
