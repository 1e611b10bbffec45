import Shortcuts.Proofs.Text.Percent

/-!
Encoded texts read token by token. Besides unreserved characters an encoded text has nothing but
bytes in upper-case digits, and its tokens follow the text character by character and its UTF-8
form byte by byte. Different texts are encoded differently, and joined texts one by one.
-/
namespace Shortcuts.Percent

inductive Token where
  | literal (c : Char)
  | byte (b : UInt8)
  deriving DecidableEq, Repr

def upperDigit? (c : Char) : Option Nat := "0123456789ABCDEF".toList.idxOf? c

/-- Reads unreserved characters and bytes with two upper-case digits; anything else is refused. -/
def tokens? : List Char → Option (List Token)
  | [] => some []
  | '%' :: a :: b :: rest =>
    match upperDigit? a, upperDigit? b with
    | some high, some low => (tokens? rest).map (.byte (UInt8.ofNat (16 * high + low)) :: ·)
    | _, _ => none
  | c :: rest => if isUnreserved c then (tokens? rest).map (.literal c :: ·) else none

/-- An unreserved character stands for itself, any other one for the bytes it has in UTF-8. -/
def tokensOf (c : Char) : List Token :=
  if isUnreserved c then [.literal c] else (String.utf8EncodeChar c).map .byte

/-- The token of a byte, which is a literal if the byte is an unreserved character of ASCII. -/
def tokenOfByte (b : UInt8) : Token :=
  if isUnreserved (Char.ofNat b.toNat) then .literal (Char.ofNat b.toNat) else .byte b

/-! ## Reading tokens -/

theorem upperDigit?_hexDigit : ∀ n < 16, upperDigit? (hexDigit n) = some n := by decide

theorem tokens?_encodeByte (b : UInt8) (rest : List Char) :
    tokens? (encodeByte b ++ rest) = (tokens? rest).map (.byte b :: ·) := by
  have hhigh := upperDigit?_hexDigit _ (byte_div_lt b)
  have hlow := upperDigit?_hexDigit (b.toNat % 16) (Nat.mod_lt _ (by omega))
  have hbyte : 16 * (b.toNat / 16) + b.toNat % 16 = b.toNat := by omega
  simp only [encodeByte, List.cons_append, List.nil_append, tokens?, hhigh, hlow, hbyte]
  rw [UInt8.ofNat_toNat]

theorem tokens?_encodeBytes (bs : List UInt8) (rest : List Char) :
    tokens? (bs.flatMap encodeByte ++ rest) = (tokens? rest).map (bs.map .byte ++ ·) := by
  induction bs with
  | nil => simp
  | cons b bs ih =>
    rw [List.flatMap_cons, List.append_assoc, tokens?_encodeByte, ih, Option.map_map]
    rfl

theorem tokens?_unreserved {c : Char} (h : isUnreserved c = true) (rest : List Char) :
    tokens? (c :: rest) = (tokens? rest).map (.literal c :: ·) := by
  have hc : c ≠ '%' := by
    rintro rfl
    cases h
  rw [tokens?, if_pos h]
  intro a b rest' heq
  exact absurd heq hc

theorem tokens?_encodeChar (c : Char) (rest : List Char) :
    tokens? (encodeChar c ++ rest) = (tokens? rest).map (tokensOf c ++ ·) := by
  unfold encodeChar tokensOf
  split
  · rename_i hc
    exact tokens?_unreserved hc rest
  · exact tokens?_encodeBytes _ rest

theorem tokens?_encode (text : List Char) :
    tokens? (encode text) = some (text.flatMap tokensOf) := by
  induction text with
  | nil => rfl
  | cons c rest ih =>
    rw [encode, List.flatMap_cons, tokens?_encodeChar, ← encode, ih, List.flatMap_cons]
    rfl

/-! ## Byte by byte -/

theorem toNat_lt_of_isUnreserved {c : Char} (h : isUnreserved c = true) : c.toNat < 128 := by
  rw [isUnreserved, Bool.or_eq_true] at h
  rcases h with hletter | hmark
  · change ((decide (65 ≤ c.val ∧ c.val ≤ 90) || (decide (97 ≤ c.val) && decide (c.val ≤ 122))) ||
      (decide (48 ≤ c.val) && decide (c.val ≤ 57))) = true at hletter
    simp only [Bool.or_eq_true, Bool.and_eq_true, decide_eq_true_eq,
      UInt32.le_iff_toNat_le] at hletter
    change ((65 ≤ c.toNat ∧ c.toNat ≤ 90) ∨ (97 ≤ c.toNat ∧ c.toNat ≤ 122)) ∨
      (48 ≤ c.toNat ∧ c.toNat ≤ 57) at hletter
    omega
  · have hsmall : marks.all (fun m => m.toNat < 128) = true := by decide
    exact of_decide_eq_true (List.all_eq_true.1 hsmall c (List.contains_iff_mem.1 hmark))

theorem utf8EncodeChar_of_lt {c : Char} (h : c.toNat < 128) :
    String.utf8EncodeChar c = [UInt8.ofNat c.toNat] := by
  have hval : c.val.toNat = c.toNat := rfl
  simp only [String.utf8EncodeChar, hval]
  rw [if_pos (by omega)]

/-- Beyond ASCII no byte looks like a character of ASCII. -/
theorem le_of_mem_utf8EncodeChar {c : Char} (h : 128 ≤ c.toNat) {b : UInt8}
    (hb : b ∈ String.utf8EncodeChar c) : 128 ≤ b.toNat := by
  have hval : c.val.toNat = c.toNat := rfl
  have hbyte : ∀ n, 128 ≤ n → n < 256 → 128 ≤ (UInt8.ofNat n).toNat := by
    intro n hn hn'
    rwa [UInt8.toNat_ofNat', Nat.mod_eq_of_lt hn']
  simp only [String.utf8EncodeChar, hval] at hb
  rw [if_neg (by omega)] at hb
  split at hb
  · simp only [List.mem_cons, List.not_mem_nil, or_false] at hb
    rcases hb with rfl | rfl <;> exact hbyte _ (by omega) (by omega)
  · split at hb
    · simp only [List.mem_cons, List.not_mem_nil, or_false] at hb
      rcases hb with rfl | rfl | rfl <;> exact hbyte _ (by omega) (by omega)
    · simp only [List.mem_cons, List.not_mem_nil, or_false] at hb
      rcases hb with rfl | rfl | rfl | rfl <;> exact hbyte _ (by omega) (by omega)

theorem tokenOfByte_ofNat {c : Char} (h : c.toNat < 128) :
    tokenOfByte (UInt8.ofNat c.toNat) =
      if isUnreserved c then .literal c else .byte (UInt8.ofNat c.toNat) := by
  have hbyte : (UInt8.ofNat c.toNat).toNat = c.toNat := by
    rw [UInt8.toNat_ofNat']
    omega
  rw [tokenOfByte, hbyte, Char.ofNat_toNat]

theorem not_isUnreserved_of_le : ∀ n < 256, 128 ≤ n → isUnreserved (Char.ofNat n) = false := by
  decide +kernel

theorem tokensOf_eq (c : Char) : tokensOf c = (String.utf8EncodeChar c).map tokenOfByte := by
  rcases Nat.lt_or_ge c.toNat 128 with hlow | hhigh
  · rw [utf8EncodeChar_of_lt hlow, List.map_singleton, tokenOfByte_ofNat hlow, tokensOf,
      utf8EncodeChar_of_lt hlow]
    split <;> rfl
  · have hreserved : ¬ isUnreserved c = true := fun h => by
      have hlt := toNat_lt_of_isUnreserved h
      omega
    rw [tokensOf, if_neg hreserved]
    refine List.map_congr_left fun b hb => ?_
    have hb := not_isUnreserved_of_le b.toNat b.toNat_lt (le_of_mem_utf8EncodeChar hhigh hb)
    rw [tokenOfByte, hb]
    rfl

/-! ## What encoded texts show -/

/-- A written text shows another one: its tokens are those of the characters, which are those of
the bytes, and it decodes to these bytes. -/
structure Shows (written text : List Char) : Prop where
  perCharacter : tokens? written = some (text.flatMap tokensOf)
  perByte : tokens? written = some ((bytes text).map tokenOfByte)
  decoded : decode written = bytes text

theorem shows_encode (text : List Char) : Shows (encode text) text where
  perCharacter := tokens?_encode text
  perByte := by
    have htokens : tokensOf = fun c => (String.utf8EncodeChar c).map tokenOfByte :=
      funext tokensOf_eq
    rw [tokens?_encode, bytes, List.map_flatMap, htokens]
  decoded := decode_encode text

theorem bytes_injective : Function.Injective bytes := by
  intro a b h
  have hencode : a.utf8Encode = b.utf8Encode := congrArg List.toByteArray h
  rw [← String.toByteArray_ofList, ← String.toByteArray_ofList] at hencode
  exact String.ofList_injective (String.toByteArray_inj.1 hencode)

theorem encode_injective : Function.Injective encode := by
  intro a b h
  have hbytes : bytes a = bytes b := by rw [← decode_encode, h, decode_encode]
  exact bytes_injective hbytes

theorem encode_append (a b : List Char) : encode (a ++ b) = encode a ++ encode b :=
  List.flatMap_append

/-- Commas between texts are reserved, so they are encoded as well. -/
theorem encode_join (texts : List (List Char)) :
    encode (Text.join [','] texts) = Text.join "%2C".toList (texts.map encode) :=
  Text.flatMap_join encodeChar [','] texts

end Shortcuts.Percent
