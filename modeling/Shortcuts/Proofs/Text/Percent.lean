import Shortcuts.Text.Percent
import Shortcuts.Text.Pieces

/-!
Percent encoding is undone by decoding: an encoded text decodes to the bytes of its UTF-8 form.
It is written with percent signs and characters that stand for themselves only, none of which is
a bracket, a comma or a space.
-/
namespace Shortcuts

theorem Text.flatMap_join {α : Type} (f : Char → List α) (sep : List Char)
    (texts : List (List Char)) : (Text.join sep texts).flatMap f =
      List.intercalate (sep.flatMap f) (texts.map (List.flatMap f)) := by
  unfold Text.join
  induction texts with
  | nil => rfl
  | cons text rest ih =>
    cases rest with
    | nil => simp
    | cons next rest =>
      rw [List.intercalate_cons_cons, List.flatMap_append, List.flatMap_append, ih]
      simp only [List.map_cons, List.intercalate_cons_cons]

namespace Percent

/-- The bytes of a text in UTF-8. -/
def bytes (text : List Char) : List UInt8 := text.flatMap String.utf8EncodeChar

theorem bytes_join (sep : List Char) (texts : List (List Char)) :
    bytes (Text.join sep texts) = List.intercalate (bytes sep) (texts.map bytes) :=
  Text.flatMap_join String.utf8EncodeChar sep texts

theorem hexDigit_unreserved : ∀ n < 16, isUnreserved (hexDigit n) = true := by decide

theorem digit?_hexDigit : ∀ n < 16, Text.digit? (hexDigit n) = some n := by decide

theorem byte_div_lt (b : UInt8) : b.toNat / 16 < 16 := by
  have h := b.toNat_lt
  omega

/-! ## The characters of an encoded text -/

theorem mem_encodeByte {b : UInt8} {c : Char} (h : c ∈ encodeByte b) :
    c = '%' ∨ isUnreserved c = true := by
  simp only [encodeByte, List.mem_cons, List.not_mem_nil, or_false] at h
  rcases h with rfl | rfl | rfl
  · exact .inl rfl
  · exact .inr (hexDigit_unreserved _ (byte_div_lt b))
  · exact .inr (hexDigit_unreserved _ (Nat.mod_lt _ (by omega)))

theorem mem_encode {text : List Char} {c : Char} (h : c ∈ encode text) :
    c = '%' ∨ isUnreserved c = true := by
  obtain ⟨d, _, hc⟩ := List.mem_flatMap.1 h
  unfold encodeChar at hc
  split at hc
  · rename_i hd
    rw [List.mem_singleton.1 hc]
    exact .inr hd
  · obtain ⟨b, _, hb⟩ := List.mem_flatMap.1 hc
    exact mem_encodeByte hb

theorem opening_notMem_encode (text : List Char) : '<' ∉ encode text := by
  intro h
  rcases mem_encode h with h | h
  · cases h
  · cases h

/-! ## Decoding -/

theorem decode_encodeByte (b : UInt8) (rest : List Char) :
    decode (encodeByte b ++ rest) = b :: decode rest := by
  have hhigh := digit?_hexDigit _ (byte_div_lt b)
  have hlow := digit?_hexDigit (b.toNat % 16) (Nat.mod_lt _ (by omega))
  have hbyte : 16 * (b.toNat / 16) + b.toNat % 16 = b.toNat := by omega
  simp only [encodeByte, List.cons_append, List.nil_append, decode, hhigh, hlow, hbyte]
  rw [UInt8.ofNat_toNat]

theorem decode_encodeBytes (bs : List UInt8) (rest : List Char) :
    decode (bs.flatMap encodeByte ++ rest) = bs ++ decode rest := by
  induction bs with
  | nil => rfl
  | cons b bs ih =>
    rw [List.flatMap_cons, List.append_assoc, decode_encodeByte, ih, List.cons_append]

theorem decode_unreserved {c : Char} (h : isUnreserved c = true) (rest : List Char) :
    decode (c :: rest) = String.utf8EncodeChar c ++ decode rest := by
  have hc : c ≠ '%' := by
    rintro rfl
    cases h
  rw [decode]
  intro a b rest' heq
  exact absurd heq hc

theorem decode_encodeChar (c : Char) (rest : List Char) :
    decode (encodeChar c ++ rest) = String.utf8EncodeChar c ++ decode rest := by
  unfold encodeChar
  split
  · rename_i hc
    exact decode_unreserved hc rest
  · exact decode_encodeBytes _ rest

theorem decode_encode_append (text rest : List Char) :
    decode (encode text ++ rest) = bytes text ++ decode rest := by
  induction text with
  | nil => rfl
  | cons c text ih =>
    rw [encode, List.flatMap_cons, List.append_assoc, decode_encodeChar, ← encode, ih, bytes,
      bytes, List.flatMap_cons, List.append_assoc]

theorem decode_encode (text : List Char) : decode (encode text) = bytes text := by
  have h := decode_encode_append text []
  rwa [List.append_nil, decode, List.append_nil] at h

end Percent

end Shortcuts
