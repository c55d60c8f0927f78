import Failover.Proofs.Json.Tokens

/-!
# Outlines read back

An outline can be written out again: its tokens stand in the order of the text, and the octets of
the text are those of its tokens. `Outline.ofBytes?_octets` says that this is undone by reading,
once every scalar and every key can be told from what stands behind it.

Both machines are followed along the outline. Their lemmas leave open what comes behind: the one
that cuts a text into tokens needs to know that it does not continue a number, the one that builds
the outline goes on with the container around it.
-/

namespace Failover

namespace Json

namespace Token

/-- The octets of a token. -/
def octets : Token → List UInt8
  | .openBrace => [123]
  | .closeBrace => [125]
  | .openBracket => [91]
  | .closeBracket => [93]
  | .colon => [58]
  | .comma => [44]
  | .null => [110, 117, 108, 108]
  | .truth true => [116, 114, 117, 101]
  | .truth false => [102, 97, 108, 115, 101]
  | .number text => text
  | .string text => 34 :: text ++ [34]

/-- A token is a scalar that is read from its octets, whatever may stand behind it. -/
structure Legible (t : Token) : Prop where
  read : ∀ found rest, Follows rest →
    Lexer.run? found .between (t.octets ++ rest) = Lexer.run? (t :: found) .between rest
  leaf : ∀ stack, Outline.begin? stack t = some ⟨stack, .continuation (.scalar t)⟩

/-- The word for null can be read. -/
lemma legible_null : Legible .null := ⟨fun _ _ _ => rfl, fun _ => rfl⟩

/-- The words for true and false can be read. -/
lemma legible_truth (b : Bool) : Legible (.truth b) := by
  cases b <;> exact ⟨fun _ _ _ => rfl, fun _ => rfl⟩

/-- The text of an integer can be read. -/
lemma legible_number (n : Int) : Legible (.number (Json.octets (toString n))) :=
  ⟨fun _ _ h => Lexer.run?_toString n h, fun _ => rfl⟩

/-- A string literal can be read. -/
lemma legible_string (s : String) : Legible (.string (escaped s)) := by
  refine ⟨?_, fun _ => rfl⟩
  intro found rest _
  rw [octets, List.append_assoc]
  exact Lexer.run?_string s

end Token

namespace Outline

mutual

/-- The tokens of an outline, in the order of the text. -/
def tokens : Outline → List Token
  | .scalar token => [token]
  | .array [] => [.openBracket, .closeBracket]
  | .array (item :: rest) => .openBracket :: (tokens item ++ itemsTail rest)
  | .object [] => [.openBrace, .closeBrace]
  | .object ((key, item) :: rest) =>
    .openBrace :: .string key :: .colon :: (tokens item ++ membersTail rest)

/-- The tokens from behind an item of an array to its end. -/
def itemsTail : List Outline → List Token
  | [] => [.closeBracket]
  | item :: rest => .comma :: (tokens item ++ itemsTail rest)

/-- The tokens from behind a member of an object to its end. -/
def membersTail : List (List UInt8 × Outline) → List Token
  | [] => [.closeBrace]
  | (key, item) :: rest => .comma :: .string key :: .colon :: (tokens item ++ membersTail rest)

end

/-- The octets of tokens in a row. -/
def octetsOf (tokens : List Token) : List UInt8 := tokens.flatMap Token.octets

/-- The text of an outline. -/
def octets (o : Outline) : List UInt8 := octetsOf o.tokens

/-- Every scalar and every key of the outline can be read. -/
inductive Legible : Outline → Prop
  | scalar {t : Token} : t.Legible → Legible (.scalar t)
  | array {items : List Outline} : (∀ item ∈ items, Legible item) → Legible (.array items)
  | object {members : List (List UInt8 × Outline)} :
    (∀ m ∈ members, (Token.string m.1).Legible) → (∀ m ∈ members, Legible m.2) →
    Legible (.object members)

variable {o item : Outline} {items : List Outline} {members : List (List UInt8 × Outline)}

@[simp] lemma octetsOf_nil : octetsOf [] = [] := rfl

@[simp] lemma octetsOf_cons (t : Token) (tokens : List Token) :
    octetsOf (t :: tokens) = t.octets ++ octetsOf tokens := rfl

/-- The octets of more tokens come after those of the tokens before them. -/
@[simp] lemma octetsOf_append (tokens more : List Token) :
    octetsOf (tokens ++ more) = octetsOf tokens ++ octetsOf more := List.flatMap_append

/-! ## Tokens -/

section Tokens

variable {found : List Token} {rest : List UInt8}

/-- The machine finds these tokens if it is given their octets and something that may follow. -/
def Cuts (tokens : List Token) : Prop :=
  ∀ found rest, Follows rest → Lexer.run? found .between (octetsOf tokens ++ rest) =
    Lexer.run? (tokens.reverse ++ found) .between rest

/-- Behind an item there is a comma or the end of the array. -/
lemma follows_itemsTail (items : List Outline) (rest : List UInt8) :
    Follows (octetsOf (itemsTail items) ++ rest) := by
  cases items <;> exact follows_cons (by decide)

/-- Behind a member there is a comma or the end of the object. -/
lemma follows_membersTail (members : List (List UInt8 × Outline)) (rest : List UInt8) :
    Follows (octetsOf (membersTail members) ++ rest) := by
  cases members <;> exact follows_cons (by decide)

/-- An item and what stands behind it are cut into their tokens. -/
lemma run?_item_tail (hitem : Cuts item.tokens) (htail : Cuts (itemsTail items))
    (hrest : Follows rest) :
    Lexer.run? found .between (octetsOf (item.tokens ++ itemsTail items) ++ rest) =
      Lexer.run? ((item.tokens ++ itemsTail items).reverse ++ found) .between rest := by
  rw [octetsOf_append, List.append_assoc, hitem found _ (follows_itemsTail items rest),
    htail _ rest hrest, List.reverse_append, List.append_assoc]

/-- A member and what stands behind it are cut into their tokens. -/
lemma run?_member_tail {key : List UInt8} (hkey : (Token.string key).Legible)
    (hitem : Cuts item.tokens) (htail : Cuts (membersTail members)) (hrest : Follows rest) :
    Lexer.run? found .between
        (octetsOf (.string key :: .colon :: (item.tokens ++ membersTail members)) ++ rest) =
      Lexer.run? ((.string key :: .colon :: (item.tokens ++ membersTail members)).reverse ++ found)
        .between rest := by
  have hfollows : Follows (octetsOf (.colon :: (item.tokens ++ membersTail members)) ++ rest) :=
    follows_cons (by decide)
  rw [octetsOf_cons, List.append_assoc, hkey.read found _ hfollows]
  show Lexer.run? (.colon :: .string key :: found) .between
    (octetsOf (item.tokens ++ membersTail members) ++ rest) = _
  rw [octetsOf_append, List.append_assoc, hitem _ _ (follows_membersTail members rest),
    htail _ rest hrest]
  simp

/-- What stands behind an item is cut into its tokens if the items are. -/
lemma cuts_itemsTail (h : ∀ item ∈ items, Cuts item.tokens) : Cuts (itemsTail items) := by
  induction items with
  | nil => exact fun _ _ _ => rfl
  | cons item items ih =>
    obtain ⟨hitem, hitems⟩ := List.forall_mem_cons.mp h
    intro found rest hrest
    show Lexer.run? (.comma :: found) .between
      (octetsOf (item.tokens ++ itemsTail items) ++ rest) = _
    rw [run?_item_tail hitem (ih hitems) hrest]
    simp [itemsTail]

/-- What stands behind a member is cut into its tokens if keys and items are. -/
lemma cuts_membersTail (hkeys : ∀ m ∈ members, (Token.string m.1).Legible)
    (h : ∀ m ∈ members, Cuts m.2.tokens) : Cuts (membersTail members) := by
  induction members with
  | nil => exact fun _ _ _ => rfl
  | cons m members ih =>
    obtain ⟨hkey, hkeys⟩ := List.forall_mem_cons.mp hkeys
    obtain ⟨hitem, hitems⟩ := List.forall_mem_cons.mp h
    intro found rest hrest
    show Lexer.run? (.comma :: found) .between
      (octetsOf (.string m.1 :: .colon :: (m.2.tokens ++ membersTail members)) ++ rest) = _
    rw [run?_member_tail hkey hitem (ih hkeys hitems) hrest]
    simp [membersTail]

/-- The text of an outline is cut into its tokens. -/
lemma Legible.cuts (h : Legible o) : Cuts o.tokens := by
  induction h with
  | scalar ht =>
    intro found rest hrest
    rw [tokens, octetsOf_cons, octetsOf_nil, List.append_nil]
    exact ht.read found rest hrest
  | @array items _ ih =>
    cases items with
    | nil => exact fun _ _ _ => rfl
    | cons item items =>
      obtain ⟨hitem, hitems⟩ := List.forall_mem_cons.mp ih
      intro found rest hrest
      show Lexer.run? (.openBracket :: found) .between
        (octetsOf (item.tokens ++ itemsTail items) ++ rest) = _
      rw [run?_item_tail hitem (cuts_itemsTail hitems) hrest]
      simp [tokens]
  | @object members hkeys _ ih =>
    cases members with
    | nil => exact fun _ _ _ => rfl
    | cons m members =>
      obtain ⟨hkey, hkeys⟩ := List.forall_mem_cons.mp hkeys
      obtain ⟨hitem, hitems⟩ := List.forall_mem_cons.mp ih
      intro found rest hrest
      show Lexer.run? (.openBrace :: found) .between
        (octetsOf (.string m.1 :: .colon :: (m.2.tokens ++ membersTail members)) ++ rest) = _
      rw [run?_member_tail hkey hitem (cuts_membersTail hkeys hitems) hrest]
      simp [tokens]

end Tokens

/-! ## The outline of the tokens -/

section Building

variable {stack : List Frame} {rest : List Token}

/-- The machine takes these tokens for this outline wherever it wants a value. -/
def Builds (tokens : List Token) (o : Outline) : Prop :=
  ∀ stack rest, run? ⟨stack, .value⟩ (tokens ++ rest) = run? ⟨stack, .continuation o⟩ rest

/-- An array is not closed by the first token of an item. -/
lemma Legible.run?_firstItem (h : o.Legible) :
    run? ⟨.array [] :: stack, .firstItem⟩ (o.tokens ++ rest) =
      run? ⟨.array [] :: stack, .value⟩ (o.tokens ++ rest) := by
  cases h with
  | @scalar t ht =>
    have hclose : t ≠ .closeBracket := by
      rintro rfl
      cases ht.leaf []
    have hfirst : step? ⟨.array [] :: stack, .firstItem⟩ t = begin? (.array [] :: stack) t := by
      unfold step?
      dsimp only
      split
      case h_1 => exact absurd rfl hclose
      case h_2 => rfl
    show run? _ (t :: rest) = run? _ (t :: rest)
    rw [run?, run?, hfirst]
    rfl
  | @array items _ => cases items <;> rfl
  | @object members _ _ => cases members <;> rfl

/-- What stands behind an item of an array completes the array. -/
lemma run?_itemsTail (h : ∀ item ∈ items, Builds item.tokens item) (done : List Outline) :
    run? ⟨.array done :: stack, .continuation o⟩ (itemsTail items ++ rest) =
      run? ⟨stack, .continuation (.array ((o :: done).reverse ++ items))⟩ rest := by
  induction items generalizing o done with
  | nil =>
    rw [List.append_nil]
    rfl
  | cons item items ih =>
    obtain ⟨hitem, hitems⟩ := List.forall_mem_cons.mp h
    show run? ⟨.array (o :: done) :: stack, .value⟩ (item.tokens ++ itemsTail items ++ rest) = _
    rw [List.append_assoc, hitem, ih hitems, List.reverse_cons, List.append_assoc,
      List.singleton_append]

/-- What stands behind a member of an object completes the object. -/
lemma run?_membersTail (h : ∀ m ∈ members, Builds m.2.tokens m.2) (key : List UInt8)
    (done : List (List UInt8 × Outline)) :
    run? ⟨.object done key :: stack, .continuation o⟩ (membersTail members ++ rest) =
      run? ⟨stack, .continuation (.object (((key, o) :: done).reverse ++ members))⟩ rest := by
  induction members generalizing o key done with
  | nil =>
    rw [List.append_nil]
    rfl
  | cons m members ih =>
    obtain ⟨hitem, hitems⟩ := List.forall_mem_cons.mp h
    show run? ⟨.object ((key, o) :: done) m.1 :: stack, .value⟩
      (m.2.tokens ++ membersTail members ++ rest) = _
    rw [List.append_assoc, hitem, ih hitems, List.reverse_cons, List.append_assoc,
      List.singleton_append]

/-- The tokens of an outline are taken for it. -/
lemma Legible.builds (h : o.Legible) : Builds o.tokens o := by
  induction h with
  | @scalar t ht =>
    intro stack rest
    have hstep : step? ⟨stack, .value⟩ t = some ⟨stack, .continuation (.scalar t)⟩ := ht.leaf stack
    show run? ⟨stack, .value⟩ (t :: rest) = _
    rw [run?, hstep]
  | @array items hitems ih =>
    cases items with
    | nil => exact fun _ _ => rfl
    | cons item items =>
      obtain ⟨hitem, htail⟩ := List.forall_mem_cons.mp ih
      intro stack rest
      show run? ⟨.array [] :: stack, .firstItem⟩ (item.tokens ++ itemsTail items ++ rest) = _
      rw [List.append_assoc, (hitems item List.mem_cons_self).run?_firstItem, hitem,
        run?_itemsTail htail]
      rfl
  | @object members _ _ ih =>
    cases members with
    | nil => exact fun _ _ => rfl
    | cons m members =>
      obtain ⟨hitem, htail⟩ := List.forall_mem_cons.mp ih
      intro stack rest
      show run? ⟨.object [] m.1 :: stack, .value⟩ (m.2.tokens ++ membersTail members ++ rest) = _
      rw [List.append_assoc, hitem, run?_membersTail htail]
      rfl

end Building

/-- **An outline reads back from its text.** -/
theorem ofBytes?_octets (h : o.Legible) : ofBytes? o.octets = some o := by
  have htokens : Token.ofBytes? o.octets = some o.tokens := by
    have hcuts := h.cuts [] [] follows_nil
    rw [List.append_nil, List.append_nil] at hcuts
    show Lexer.run? [] .between (octetsOf o.tokens) = _
    rw [hcuts, Lexer.run?, List.reverse_reverse]
  have hbuilds := h.builds [] []
  rw [List.append_nil] at hbuilds
  unfold ofBytes?
  rw [htokens]
  exact hbuilds

end Outline

end Json

end Failover
