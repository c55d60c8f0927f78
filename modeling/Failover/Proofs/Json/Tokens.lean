import Failover.Json.Printer
import Failover.Json.Reading
import Mathlib.Data.List.TakeWhile
import Mathlib.Tactic.Common

/-!
# Tokens read back

What the printer writes for a scalar is read as one token, and the token has the value that was
written. For strings this goes character by character: `Escaped` says what the octets of a character
in a literal are, and both the machine that cuts a text into tokens and the reading of escapes are
followed along its cases. A number ends only at something that does not belong to it, hence
`Follows`.
-/

namespace Failover

namespace Json

/-! ## Octets of texts -/

/-- The octets of a text in UTF-8. -/
def octets (s : String) : List UInt8 := s.toUTF8.toList

/-- A loop over the octets from a position on collects the octets from there. -/
lemma toList_loop (bytes : ByteArray) (i : Nat) (found : List UInt8) :
    ByteArray.toList.loop bytes i found = found.reverse ++ bytes.data.toList.drop i := by
  induction h : bytes.size - i generalizing i found with
  | zero =>
    have hi : ¬ i < bytes.size := by omega
    have hdrop : bytes.data.toList.drop i = [] := by
      rw [List.drop_eq_nil_iff, Array.length_toList]
      exact Nat.le_of_not_lt hi
    rw [ByteArray.toList.loop, if_neg hi, hdrop, List.append_nil]
  | succ n ih =>
    have hi : i < bytes.size := by omega
    have hlength : i < bytes.data.toList.length := by simpa using hi
    have hget : bytes.get! i = bytes.data.toList[i] := by
      rw [Array.getElem_toList]
      exact getElem!_pos bytes.data i hi
    rw [ByteArray.toList.loop, if_pos hi, ih (i + 1) _ (by omega), hget,
      List.drop_eq_getElem_cons hlength]
    simp

/-- The octets of a text are those of its characters. -/
lemma octets_eq (s : String) : octets s = s.toList.flatMap String.utf8EncodeChar := by
  have hbytes : s.toUTF8 = (s.toList.flatMap String.utf8EncodeChar).toByteArray := by
    rw [String.toUTF8_eq_toByteArray, ← String.utf8Encode_toList, List.utf8Encode]
  unfold octets ByteArray.toList
  rw [hbytes, toList_loop, List.data_toByteArray]
  simp

/-- The octets of two texts, one after the other. -/
@[simp] lemma octets_append (s t : String) : octets (s ++ t) = octets s ++ octets t := by
  simp [octets_eq]

/-- A text that is made of characters has their octets. -/
@[simp] lemma octets_ofList (chars : List Char) :
    octets (String.ofList chars) = chars.flatMap String.utf8EncodeChar := by
  rw [octets_eq, String.toList_ofList]

/-- The octets of a text are read as the text. -/
lemma fromUTF8?_octets (s : String) : String.fromUTF8? ⟨(octets s).toArray⟩ = some s := by
  have hbytes : (⟨(octets s).toArray⟩ : ByteArray) = s.toByteArray := by
    rw [← String.utf8Encode_toList, List.utf8Encode, octets_eq]
    exact ByteArray.ext List.data_toByteArray.symm
  rw [hbytes]
  exact dif_pos s.isValidUTF8

/-- The octets of a character are its code point or beyond those of ASCII. -/
lemma toNat_of_mem_utf8EncodeChar {c : Char} {b : UInt8} (h : b ∈ String.utf8EncodeChar c) :
    b.toNat = c.toNat ∨ 128 ≤ b.toNat := by
  have hcode : c.val.toNat = c.toNat := rfl
  rw [String.utf8EncodeChar.eq_1, hcode] at h
  split at h
  · rw [List.mem_singleton] at h
    rw [h, UInt8.toNat_ofNat']
    omega
  · right
    have hbyte : ∃ n, b = UInt8.ofNat n ∧ 128 ≤ n ∧ n < 256 := by
      split at h
      · simp only [List.mem_cons, List.not_mem_nil, or_false] at h
        rcases h with rfl | rfl <;> exact ⟨_, rfl, by omega, by omega⟩
      split at h
      · simp only [List.mem_cons, List.not_mem_nil, or_false] at h
        rcases h with rfl | rfl | rfl <;> exact ⟨_, rfl, by omega, by omega⟩
      · simp only [List.mem_cons, List.not_mem_nil, or_false] at h
        rcases h with rfl | rfl | rfl | rfl <;> exact ⟨_, rfl, by omega, by omega⟩
    obtain ⟨n, rfl, hlow, hhigh⟩ := hbyte
    rw [UInt8.toNat_ofNat']
    omega

/-! ## Strings -/

/-- The octets of a character in a string literal. -/
def escapedChar (c : Char) : List UInt8 := (escapeChar c).flatMap String.utf8EncodeChar

/-- The octets between the quotes of a string literal. -/
def escaped (s : String) : List UInt8 := s.toList.flatMap escapedChar

/-- The octet of a hexadecimal digit. -/
def hexOctet (n : Nat) : UInt8 := UInt8.ofNat (hexDigit n).toNat

/-- How a character stands in a string literal. -/
inductive Escaped (c : Char) : List UInt8 → Prop
  /-- A short escape. -/
  | short {b : UInt8} : b ∈ [34, 92, 98, 102, 110, 114, 116] →
    String.utf8EncodeChar c = [simpleEscape b] → Escaped c [92, b]
  /-- A control character by its code point. -/
  | control : c.toNat < 32 →
    Escaped c [92, 117, 48, 48, hexOctet (c.toNat / 16), hexOctet (c.toNat % 16)]
  /-- Any other character as it is. -/
  | plain : c.toNat ≠ 34 → c.toNat ≠ 92 → 32 ≤ c.toNat → Escaped c (String.utf8EncodeChar c)

/-- Every character stands in a string literal in one of these ways. -/
lemma escaped_escapedChar (c : Char) : Escaped c (escapedChar c) := by
  have hchar : ∀ {d : Char}, c.toNat = d.toNat → c = d := fun h => Char.toNat_inj.mp h
  unfold escapedChar escapeChar
  split
  · subst c
    exact .short (by decide) (by decide)
  split
  · subst c
    exact .short (by decide) (by decide)
  split
  · obtain rfl : c = '\x08' := hchar ‹_›
    exact .short (by decide) (by decide)
  split
  · obtain rfl : c = '\x0c' := hchar ‹_›
    exact .short (by decide) (by decide)
  split
  · subst c
    exact .short (by decide) (by decide)
  split
  · subst c
    exact .short (by decide) (by decide)
  split
  · subst c
    exact .short (by decide) (by decide)
  split
  case isTrue hlow =>
    have hdigit : ∀ n < 16, String.utf8EncodeChar (hexDigit n) = [hexOctet n] := by decide
    have hoctets : ['\\', 'u', '0', '0', hexDigit (c.toNat / 16), hexDigit (c.toNat % 16)].flatMap
        String.utf8EncodeChar =
          [92, 117, 48, 48, hexOctet (c.toNat / 16), hexOctet (c.toNat % 16)] := by
      simp only [List.flatMap_cons, List.flatMap_nil, hdigit (c.toNat / 16) (by omega),
        hdigit (c.toNat % 16) (by omega)]
      rfl
    rw [hoctets]
    exact .control hlow
  case isFalse hquote hbackslash _ _ _ _ _ hlow =>
    have hself : [c].flatMap String.utf8EncodeChar = String.utf8EncodeChar c := by simp
    rw [hself]
    exact .plain (fun h => hquote (hchar h)) (fun h => hbackslash (hchar h)) (by omega)

/-- A quoted text is its escaped octets between quotation marks. -/
lemma octets_quote (s : String) : octets (quote s) = 34 :: escaped s ++ [34] := by
  have hbody : (s.toList.flatMap escapeChar).flatMap String.utf8EncodeChar = escaped s :=
    List.flatMap_assoc
  have hquote : octets "\"" = [34] := by rw [octets_eq]; decide
  unfold quote
  rw [octets_append, octets_append, hquote, octets_ofList, hbody]
  rfl

/-- The octets of a character that stands as it is have no meaning of their own in a literal. -/
lemma plain_of_mem {c : Char} {b : UInt8} (hquote : c.toNat ≠ 34) (hbackslash : c.toNat ≠ 92)
    (hlow : 32 ≤ c.toNat) (hb : b ∈ String.utf8EncodeChar c) : b ≠ 34 ∧ b ≠ 92 ∧ ¬ b < 32 := by
  have hcode := toNat_of_mem_utf8EncodeChar hb
  refine ⟨?_, ?_, ?_⟩
  · rintro rfl
    have h34 : (34 : UInt8).toNat = 34 := rfl
    omega
  · rintro rfl
    have h92 : (92 : UInt8).toNat = 92 := rfl
    omega
  · rw [UInt8.lt_iff_toNat_lt]
    have h32 : (32 : UInt8).toNat = 32 := rfl
    omega

namespace Lexer

variable {found tokens : List Token} {state next : State} {b : UInt8} {text bytes rest : List UInt8}

/-- To read an octet is to take its step and to go on from there. -/
lemma run?_cons (h : step? state b = some (tokens, next)) :
    run? found state (b :: rest) = run? (tokens.reverse ++ found) next rest := by
  rw [run?, h]

/-- A machine that takes in each of these octets where it is takes in all of them. -/
lemma run?_taken {collecting : List UInt8 → State}
    (h : ∀ b ∈ bytes, ∀ text, step? (collecting text) b = some ([], collecting (b :: text))) :
    run? found (collecting text) (bytes ++ rest) =
      run? found (collecting (bytes.reverse ++ text)) rest := by
  induction bytes generalizing text with
  | nil => rfl
  | cons b bytes ih =>
    obtain ⟨hb, hbytes⟩ := List.forall_mem_cons.mp h
    rw [List.cons_append, run?_cons (hb text), List.reverse_nil, List.nil_append, ih hbytes,
      List.reverse_cons, List.append_assoc, List.singleton_append]

/-- Octets without a meaning of their own are taken into a string as they are. -/
lemma run?_plain (h : ∀ b ∈ bytes, b ≠ 34 ∧ b ≠ 92 ∧ ¬ b < 32) :
    run? found (.string .none text) (bytes ++ rest) =
      run? found (.string .none (bytes.reverse ++ text)) rest := by
  apply run?_taken
  intro b hb text
  obtain ⟨hquote, hbackslash, hlow⟩ := h b hb
  simp [step?, stringStep?, hquote, hbackslash, hlow]

/-- The octets of a character in a literal are taken into the string. -/
lemma run?_escaped {c : Char} (h : Escaped c bytes) :
    run? found (.string .none text) (bytes ++ rest) =
      run? found (.string .none (bytes.reverse ++ text)) rest := by
  cases h with
  | short hb _ =>
    simp only [List.mem_cons, List.not_mem_nil, or_false] at hb
    rcases hb with rfl | rfl | rfl | rfl | rfl | rfl | rfl <;> rfl
  | control hlow =>
    have hdigit : ∀ n < 16, isHexDigit (hexOctet n) = true := by decide
    have hfirst : ∀ text, step? (.string (.hex 2) text) (hexOctet (c.toNat / 16)) =
        some ([], .string (.hex 1) (hexOctet (c.toNat / 16) :: text)) := by
      intro text
      simp [step?, stringStep?, hdigit (c.toNat / 16) (by omega)]
    have hsecond : ∀ text, step? (.string (.hex 1) text) (hexOctet (c.toNat % 16)) =
        some ([], .string .none (hexOctet (c.toNat % 16) :: text)) := by
      intro text
      simp [step?, stringStep?, hdigit (c.toNat % 16) (by omega)]
    show run? found (.string (.hex 2) (48 :: 48 :: 117 :: 92 :: text))
      (hexOctet (c.toNat / 16) :: hexOctet (c.toNat % 16) :: rest) = _
    rw [run?_cons (hfirst _), run?_cons (hsecond _)]
    rfl
  | plain hquote hbackslash hlow =>
    exact run?_plain fun b hb => plain_of_mem hquote hbackslash hlow hb

/-- What stands between the quotes of a literal is taken into the string. -/
lemma run?_chars (chars : List Char) :
    run? found (.string .none text) (chars.flatMap escapedChar ++ rest) =
      run? found (.string .none ((chars.flatMap escapedChar).reverse ++ text)) rest := by
  induction chars generalizing text with
  | nil => rfl
  | cons c chars ih =>
    rw [List.flatMap_cons, List.append_assoc, run?_escaped (escaped_escapedChar c), ih,
      List.reverse_append, List.append_assoc]

/-- A literal is read as a string, whatever comes behind it. -/
lemma run?_string (s : String) :
    run? found .between (34 :: escaped s ++ 34 :: rest) =
      run? (.string (escaped s) :: found) .between rest := by
  show run? found (.string .none []) (escaped s ++ 34 :: rest) = _
  unfold escaped
  rw [run?_chars, List.append_nil]
  have hend : ∀ text, step? (.string .none text) 34 = some ([.string text.reverse], .between) :=
    fun _ => rfl
  rw [run?_cons (hend _), List.reverse_reverse]
  rfl

end Lexer

/-- The encoding of a character here is that of the library. -/
lemma utf8Octets_eq (c : Char) : utf8Octets c = String.utf8EncodeChar c := by
  show octets (String.singleton c) = _
  rw [octets_eq, String.toList_singleton, List.flatMap_singleton]

/-- The octets of a character in a literal stand for the character. -/
lemma unescape?_escaped {c : Char} {bytes found rest : List UInt8} (h : Escaped c bytes) :
    unescape? found (bytes ++ rest) =
      unescape? ((String.utf8EncodeChar c).reverse ++ found) rest := by
  cases h with
  | short hb hchar =>
    rw [hchar]
    simp only [List.mem_cons, List.not_mem_nil, or_false] at hb
    rcases hb with rfl | rfl | rfl | rfl | rfl | rfl | rfl <;> rfl
  | control hlow =>
    have hdigit : ∀ n < 16, hexValue (hexOctet n) = n := by decide
    have hzero : hexValue 48 = 0 := by decide
    have hunit : ((hexValue 48 * 16 + hexValue 48) * 16 + hexValue (hexOctet (c.toNat / 16))) * 16 +
        hexValue (hexOctet (c.toNat % 16)) = c.toNat := by
      rw [hzero, hdigit (c.toNat / 16) (by omega), hdigit (c.toNat % 16) (by omega)]
      omega
    show unescape? found (92 :: 117 :: 48 :: 48 :: hexOctet (c.toNat / 16) ::
      hexOctet (c.toNat % 16) :: rest) = _
    rw [unescape?.eq_def]
    simp only [hunit]
    rw [if_pos (by omega), Char.ofNat_toNat, utf8Octets_eq]
  | plain hquote hbackslash hlow =>
    have hplain : ∀ bytes : List UInt8, (∀ b ∈ bytes, b ≠ 92) → ∀ found,
        unescape? found (bytes ++ rest) = unescape? (bytes.reverse ++ found) rest := by
      intro bytes hbytes
      induction bytes with
      | nil => exact fun _ => rfl
      | cons b bytes ih =>
        intro found
        obtain ⟨hb, hbytes⟩ := List.forall_mem_cons.mp hbytes
        rw [List.cons_append, unescape?, ih hbytes]
        · simp
        · exact fun _ _ _ _ _ h _ => hb h
        · exact fun _ _ h _ => hb h
    exact hplain _ (fun b hb => (plain_of_mem hquote hbackslash hlow hb).2.1) found

/-- A string has the value of which it is the literal. -/
lemma stringValue?_escaped (s : String) : stringValue? (escaped s) = some s := by
  have hchars : ∀ (chars : List Char) (found : List UInt8),
      unescape? found (chars.flatMap escapedChar) =
        some (found.reverse ++ chars.flatMap String.utf8EncodeChar) := by
    intro chars
    induction chars with
    | nil => simp [unescape?]
    | cons c chars ih =>
      intro found
      rw [List.flatMap_cons, unescape?_escaped (escaped_escapedChar c), ih]
      simp
  have hoctets : unescape? [] (escaped s) = some (octets s) := by
    rw [octets_eq]
    exact hchars s.toList []
  unfold stringValue?
  rw [hoctets]
  exact fromUTF8?_octets s

/-! ## Integers -/

/-- The octet of a decimal digit. -/
def digitOctet (n : Nat) : UInt8 := UInt8.ofNat (48 + n)

/-- A natural number is reached from its digits, the last one taken off in each step. -/
lemma decimal_induction {P : Nat → Prop} (hsmall : ∀ n < 10, P n)
    (hstep : ∀ n, 10 ≤ n → P (n / 10) → P n) (n : Nat) : P n := by
  induction n using Nat.strongRecOn with
  | ind n ih =>
    by_cases h : n < 10
    · exact hsmall n h
    · exact hstep n (Nat.le_of_not_lt h) (ih (n / 10) (by omega))

/-- A decimal digit is one octet. -/
lemma utf8EncodeChar_digitChar :
    ∀ n < 10, String.utf8EncodeChar (Nat.digitChar n) = [digitOctet n] := by
  decide

/-- A number below ten is written with its digit. -/
lemma octets_toString_of_lt {n : Nat} (h : n < 10) : octets (toString n) = [digitOctet n] := by
  rw [Nat.toString_eq_ofList_toDigits, octets_ofList, Nat.toDigits_of_lt_base h,
    List.flatMap_singleton, utf8EncodeChar_digitChar n h]

/-- A number from ten on is written with its last digit at the end. -/
lemma octets_toString_of_le {n : Nat} (h : 10 ≤ n) :
    octets (toString n) = octets (toString (n / 10)) ++ [digitOctet (n % 10)] := by
  have hlast : n % 10 < 10 := Nat.mod_lt n (by decide)
  rw [Nat.toString_eq_ofList_toDigits, Nat.toString_eq_ofList_toDigits, octets_ofList,
    octets_ofList, Nat.toDigits_of_base_le (by decide) h, List.flatMap_append,
    List.flatMap_singleton, utf8EncodeChar_digitChar _ hlast]

/-- A natural number is written in digits. -/
lemma isDigit_of_mem_toString (n : Nat) : ∀ b ∈ octets (toString n), Lexer.isDigit b = true := by
  have hdigit : ∀ n < 10, Lexer.isDigit (digitOctet n) = true := by decide
  induction n using decimal_induction with
  | hsmall n h =>
    rw [octets_toString_of_lt h, List.forall_mem_singleton]
    exact hdigit n h
  | hstep n h ih =>
    rw [octets_toString_of_le h, List.forall_mem_append, List.forall_mem_singleton]
    exact ⟨ih, hdigit (n % 10) (by omega)⟩

/-- A positive number is written with a first digit other than zero. -/
lemma exists_toString_eq_cons {n : Nat} (hpos : 0 < n) :
    ∃ d bytes, 1 ≤ d ∧ d < 10 ∧ octets (toString n) = digitOctet d :: bytes := by
  induction n using decimal_induction with
  | hsmall n h => exact ⟨n, [], hpos, h, octets_toString_of_lt h⟩
  | hstep n h ih =>
    obtain ⟨d, bytes, hd, hd', hbytes⟩ := ih (by omega)
    refine ⟨d, bytes ++ [digitOctet (n % 10)], hd, hd', ?_⟩
    rw [octets_toString_of_le h, hbytes]
    rfl

/-- The digits of a number of 64 bits are read as the number. -/
lemma ofWhole_toString {n : Nat} (hbits : n < 0x10000000000000000) :
    Digits.ofWhole (octets (toString n)) = ⟨n, 0, false⟩ := by
  have hvalue : ∀ n < 10, Digits.value (digitOctet n) = n := by decide
  have hadd : ∀ {m d : Nat}, d < 10 → m * 10 + d < 0x10000000000000000 →
      Digits.addWhole ⟨m, 0, false⟩ (digitOctet d) = ⟨m * 10 + d, 0, false⟩ := by
    intro m d hd hlt
    have hextend : Digits.extend ⟨m, 0, false⟩ (digitOctet d) = m * 10 + d := by
      unfold Digits.extend
      rw [hvalue d hd]
    unfold Digits.addWhole
    rw [hextend, if_neg]
    simpa using hlt
  induction n using decimal_induction with
  | hsmall n h =>
    rw [octets_toString_of_lt h]
    have hfirst := hadd (m := 0) h (by omega)
    rw [Nat.zero_mul, Nat.zero_add] at hfirst
    exact hfirst
  | hstep n h ih =>
    have hwhole : Digits.ofWhole (octets (toString n)) =
        Digits.addWhole (Digits.ofWhole (octets (toString (n / 10)))) (digitOctet (n % 10)) := by
      rw [octets_toString_of_le h]
      exact List.foldl_append
    have hsum : n / 10 * 10 + n % 10 = n := by omega
    rw [hwhole, ih (by omega), hadd (by omega) (by omega), hsum]

/-- An integer that is not negative is written as a natural number. -/
lemma octets_toString_ofNat (n : Nat) : octets (toString (Int.ofNat n)) = octets (toString n) := rfl

/-- A negative integer is written as its size after a minus sign. -/
lemma octets_toString_negSucc (n : Nat) :
    octets (toString (Int.negSucc n)) = 45 :: octets (toString (n + 1)) := by
  have hsign : octets "-" = [45] := by rw [octets_eq]; decide
  have htext : toString (Int.negSucc n) = "-" ++ toString (n + 1) := rfl
  rw [htext, octets_append, hsign]
  rfl

/-- Digits alone have the value of their significand. -/
lemma numberValue?_digits {bytes : List UInt8} {m : Nat}
    (hdigits : ∀ b ∈ bytes, Lexer.isDigit b = true) (hwhole : Digits.ofWhole bytes = ⟨m, 0, false⟩) :
    numberValue? bytes = some (.int m) := by
  have htake : bytes.takeWhile Lexer.isDigit = bytes := List.takeWhile_eq_self_iff.mpr hdigits
  have hsign : (bytes.head? == some 45) = false := by
    rw [beq_eq_false_iff_ne]
    intro hhead
    have hminus := hdigits 45 (List.mem_of_head? hhead)
    revert hminus
    decide
  unfold numberValue?
  simp [hsign, htake, hwhole]

/-- Digits behind a minus sign have the negative value, unless it is zero. -/
lemma numberValue?_minus {bytes : List UInt8} {m : Nat}
    (hdigits : ∀ b ∈ bytes, Lexer.isDigit b = true) (hwhole : Digits.ofWhole bytes = ⟨m, 0, false⟩)
    (hpos : 0 < m) (hbits : m ≤ 0x8000000000000000) :
    numberValue? (45 :: bytes) = some (.int (-m)) := by
  have htake : bytes.takeWhile Lexer.isDigit = bytes := List.takeWhile_eq_self_iff.mpr hdigits
  unfold numberValue?
  simp [htake, hwhole]
  omega

/-- An integer of 64 bits has the value of which it is the text. -/
lemma numberValue?_toString {n : Int} (hlow : -0x8000000000000000 ≤ n)
    (hhigh : n < 0x10000000000000000) : numberValue? (octets (toString n)) = some (.int n) := by
  cases n with
  | ofNat m =>
    rw [Int.ofNat_eq_natCast] at hhigh
    have hbits : m < 0x10000000000000000 := by omega
    rw [octets_toString_ofNat]
    exact numberValue?_digits (isDigit_of_mem_toString m) (ofWhole_toString hbits)
  | negSucc m =>
    have hbits : m + 1 < 0x10000000000000000 := by omega
    rw [octets_toString_negSucc]
    exact numberValue?_minus (isDigit_of_mem_toString (m + 1)) (ofWhole_toString hbits)
      m.succ_pos (by omega)

/-- What may stand behind a token: nothing, a separator or the end of a container. -/
def Follows (rest : List UInt8) : Prop := ∀ b ∈ rest.head?, b ∈ [44, 58, 93, 125]

/-- A number may stand at the end. -/
lemma follows_nil : Follows [] := by
  intro b hb
  cases hb

/-- A number may stand before a comma, a colon or a closing bracket. -/
lemma follows_cons {b : UInt8} {rest : List UInt8} (h : b ∈ [44, 58, 93, 125]) :
    Follows (b :: rest) := by
  intro c hc
  cases hc
  exact h

namespace Lexer

variable {found : List Token} {state : State} {text bytes rest : List UInt8}

/-- Digits are taken into a number that has begun with a digit other than zero. -/
lemma run?_digits (h : ∀ b ∈ bytes, isDigit b = true) :
    run? found (.number .whole text) (bytes ++ rest) =
      run? found (.number .whole (bytes.reverse ++ text)) rest := by
  apply run?_taken
  intro b hb text
  simp [step?, NumberPart.extend?, h b hb]

/-- A number that is complete ends at what cannot belong to it. -/
lemma run?_of_follows {part : NumberPart} (hpart : part.complete = true) (h : Follows rest) :
    run? found (.number part text) rest = run? (.number text.reverse :: found) .between rest := by
  cases rest with
  | nil => exact if_pos hpart
  | cons b rest =>
    have hb : b ∈ [44, 58, 93, 125] := h b rfl
    simp only [List.mem_cons, List.not_mem_nil, or_false] at hb
    have hextend : part.extend? b = none ∧ isDigit b = false := by
      rcases hb with rfl | rfl | rfl | rfl <;> cases part <;> exact ⟨rfl, rfl⟩
    obtain ⟨hnone, hdigit⟩ := hextend
    have hstart : ∃ token, start? b = some (some token, .between) := by
      rcases hb with rfl | rfl | rfl | rfl <;> exact ⟨_, rfl⟩
    obtain ⟨token, htoken⟩ := hstart
    have hend : step? (.number part text) b = some ([.number text.reverse, token], .between) := by
      simp [step?, hnone, hpart, hdigit, htoken]
    have hnext : step? .between b = some ([token], .between) := by
      simp [step?, htoken]
    rw [run?_cons hend, run?_cons hnext]
    rfl

/-- A positive number is read as a whole part. -/
lemma run?_positive {n : Nat} (hpos : 0 < n)
    (hfirst : ∀ d < 10, 1 ≤ d → step? state (digitOctet d) =
      some ([], .number .whole (digitOctet d :: text))) :
    run? found state (octets (toString n) ++ rest) =
      run? found (.number .whole ((octets (toString n)).reverse ++ text)) rest := by
  obtain ⟨d, bytes, hd, hd', hbytes⟩ := exists_toString_eq_cons hpos
  have hdigits : ∀ b ∈ bytes, isDigit b = true := by
    intro b hb
    apply isDigit_of_mem_toString n
    rw [hbytes]
    exact List.mem_cons_of_mem _ hb
  rw [hbytes, List.cons_append, run?_cons (hfirst d hd' hd), List.reverse_nil, List.nil_append,
    run?_digits hdigits, List.reverse_cons, List.append_assoc, List.singleton_append]

/-- The text of an integer is read as a number. -/
lemma run?_toString (n : Int) (h : Follows rest) :
    run? found .between (octets (toString n) ++ rest) =
      run? (.number (octets (toString n)) :: found) .between rest := by
  cases n with
  | ofNat m =>
    rw [octets_toString_ofNat]
    rcases Nat.eq_zero_or_pos m with rfl | hpos
    · rw [octets_toString_of_lt (by decide)]
      show run? found (.number .zero [48]) rest = _
      exact run?_of_follows rfl h
    · have hfirst : ∀ d < 10, 1 ≤ d → step? .between (digitOctet d) =
          some ([], .number .whole [digitOctet d]) := by decide
      rw [run?_positive hpos hfirst, run?_of_follows rfl h, List.append_nil, List.reverse_reverse]
  | negSucc m =>
    have hfirst : ∀ d < 10, 1 ≤ d → step? (.number .sign [45]) (digitOctet d) =
        some ([], .number .whole [digitOctet d, 45]) := by decide
    rw [octets_toString_negSucc]
    show run? found (.number .sign [45]) (octets (toString (m + 1)) ++ rest) = _
    rw [run?_positive m.succ_pos hfirst, run?_of_follows rfl h, List.reverse_append,
      List.reverse_reverse]
    rfl

end Lexer

end Json

end Failover
