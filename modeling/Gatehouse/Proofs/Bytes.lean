import Gatehouse.Base64
import Gatehouse.Text.Utf8

/- Text comes back from its bytes, and bytes come back from their base64 text. What the strict reader of base64 text
   takes is read as the same bytes by the lenient one. -/
namespace Gatehouse

namespace Utf8

theorem decode_encode (text : String) : decode (encode text) = .ok text := by
  have valid : String.fromUTF8? text.toUTF8 = some text := by
    simp only [String.fromUTF8?, String.toUTF8_eq_toByteArray, dif_pos text.isValidUTF8]
    rfl
  rw [decode, encode, valid]

/- The list of the bytes, which is read by a loop. -/

theorem byte_loop (bytes : ByteArray) (place : Nat) (kept : List UInt8) :
    ByteArray.toList.loop bytes place kept = kept.reverse ++ bytes.data.toList.drop place := by
  fun_induction ByteArray.toList.loop bytes place kept with
  | case1 place kept inside ih =>
    have bound : place < bytes.data.toList.length := inside
    have byte : bytes.get! place = bytes.data.toList[place] := by
      show bytes.data[place]! = _
      rw [getElem!_pos bytes.data place inside]
      rfl
    rw [ih, List.drop_eq_getElem_cons bound, byte]
    simp
  | case2 place kept outside =>
    rw [List.drop_eq_nil_of_le (Nat.le_of_not_lt outside)]
    simp

theorem bytes_of_list (bytes : ByteArray) : (⟨bytes.toList.toArray⟩ : ByteArray) = bytes := by
  rw [ByteArray.toList, byte_loop]
  rfl

end Utf8

namespace Base64

theorem letter_value (value : Nat) (small : value < 64) : value? (letter value) = some value := by
  have every : ∀ value : Fin 64, value? (letter value) = some value.val := by decide +kernel
  exact every ⟨value, small⟩

theorem letter_not_padding (value : Nat) (small : value < 64) : (letter value == '=') = false := by
  have every : ∀ value : Fin 64, (letter value == '=') = false := by decide +kernel
  exact every ⟨value, small⟩

theorem letter_ascii (value : Nat) : (letter value).toNat < 128 := by
  by_cases small : value < 64
  · have every : ∀ value : Fin 64, (letter value).toNat < 128 := by decide +kernel
    exact every ⟨value, small⟩
  · have size : alphabet.length = 64 := by decide +kernel
    rw [letter, List.getD_eq_getElem?_getD, List.getElem?_eq_none (by omega)]
    decide

theorem decode_letter (strict : Bool) (group : Group) (output : Bytes) (value : Nat) (rest : List Char)
    (small : value < 64) (unpadded : group.padded = false) : decodeFrom strict group output (letter value :: rest) =
      decodeFrom strict (group.push value).1 ((group.push value).2 ++ output) rest := by
  simp [decodeFrom, letter_not_padding value small, letter_value value small, unpadded]

theorem byte_of (byte : UInt8) (value : Nat) (same : value % 256 = byte.toNat) : UInt8.ofNat value = byte := by
  rw [← UInt8.toNat_inj]
  simpa using same

theorem decode_encoded (strict : Bool) (bytes output : Bytes) :
    decodeFrom strict .start output (encodeList bytes) = .ok (output.reverse ++ bytes) := by
  fun_induction encodeList bytes generalizing output with
  | case1 => simp [decodeFrom, Group.finish, Group.start]
  | case2 a =>
    have first := a.toNat_lt
    rw [decode_letter _ _ _ _ _ (by omega) rfl, decode_letter _ _ _ _ _ (by omega) rfl]
    have byte : UInt8.ofNat (a.toNat / 4 * 4 + a.toNat % 4 * 16 / 16) = a := byte_of _ _ (by omega)
    simp only [Group.push, Group.start, List.nil_append, List.cons_append]
    rw [byte]
    simp [decodeFrom]
  | case3 a b =>
    have first := a.toNat_lt
    have second := b.toNat_lt
    rw [decode_letter _ _ _ _ _ (by omega) rfl, decode_letter _ _ _ _ _ (by omega) rfl,
      decode_letter _ _ _ _ _ (by omega) rfl]
    have byte : UInt8.ofNat (a.toNat / 4 * 4 + (a.toNat % 4 * 16 + b.toNat / 16) / 16) = a := byte_of _ _ (by omega)
    have next : UInt8.ofNat ((a.toNat % 4 * 16 + b.toNat / 16) % 16 * 16 + b.toNat % 16 * 4 / 4) = b :=
      byte_of _ _ (by omega)
    simp only [Group.push, Group.start, List.nil_append, List.cons_append]
    rw [byte, next]
    simp [decodeFrom]
  | case4 a b c rest ih =>
    have first := a.toNat_lt
    have second := b.toNat_lt
    have third := c.toNat_lt
    rw [decode_letter _ _ _ _ _ (by omega) rfl, decode_letter _ _ _ _ _ (by omega) rfl,
      decode_letter _ _ _ _ _ (by omega) rfl, decode_letter _ _ _ _ _ (by omega) rfl]
    have byte : UInt8.ofNat (a.toNat / 4 * 4 + (a.toNat % 4 * 16 + b.toNat / 16) / 16) = a := byte_of _ _ (by omega)
    have next : UInt8.ofNat ((a.toNat % 4 * 16 + b.toNat / 16) % 16 * 16 + (b.toNat % 16 * 4 + c.toNat / 64) / 4) = b :=
      byte_of _ _ (by omega)
    have last : UInt8.ofNat ((b.toNat % 16 * 4 + c.toNat / 64) % 4 * 64 + c.toNat % 64) = c := byte_of _ _ (by omega)
    simp only [Group.push, Group.start, List.nil_append, List.cons_append]
    rw [byte, next, last]
    simpa [Group.start] using ih (c :: b :: a :: output)

theorem encoded_ascii (bytes : Bytes) : ∀ c ∈ encodeList bytes, c.toNat < 128 := by
  fun_induction encodeList bytes with
  | case1 => simp
  | case2 a => simp [letter_ascii]
  | case3 a b => simp [letter_ascii]
  | case4 a b c rest ih => simpa [letter_ascii] using ih

theorem encoded_head (bytes : Bytes) : (encodeList bytes).head? ≠ some '=' := by
  have begins (a : UInt8) : letter (a.toNat / 4) ≠ '=' := by
    have bound := a.toNat_lt
    simpa using letter_not_padding (a.toNat / 4) (by omega)
  fun_cases encodeList bytes <;> simp [begins]

-- Both readers take what was encoded.
theorem decode_list_encode (strict : Bool) (bytes : Bytes) : decodeList strict (encode bytes).toList = .ok bytes := by
  have ascii : ((encodeList bytes).any fun c => 128 ≤ c.toNat) = false := by
    simpa using encoded_ascii bytes
  have unpadded : ((encodeList bytes).head? == some '=') = false := by
    simpa using encoded_head bytes
  rw [encode, String.toList_ofList, decodeList, ascii, unpadded, Bool.and_false]
  exact decode_encoded strict bytes []

/- Wherever the readers differ the strict one fails, so they go through a text that it takes in step. -/

theorem strict_step (group : Group) (output bytes : Bytes) (c : Char) (rest : List Char)
    (taken : decodeFrom true group output (c :: rest) = .ok bytes) :
    decodeFrom false group output (c :: rest) = .ok bytes ∨ ∃ next read,
      decodeFrom true next read rest = .ok bytes ∧
        decodeFrom false group output (c :: rest) = decodeFrom false next read rest := by
  rw [decodeFrom] at taken ⊢
  by_cases padding : (c == '=') = true
  · rw [if_pos padding] at taken ⊢
    by_cases begun : 2 ≤ group.letters
    · rw [if_pos begun] at taken ⊢
      by_cases full : 4 ≤ group.letters + (group.pads + 1)
      · rw [if_pos full] at taken ⊢
        cases rest with
        | nil => exact .inl taken
        | cons other more => cases taken
      · rw [if_neg full] at taken ⊢
        exact .inr ⟨_, _, taken, rfl⟩
    · rw [if_neg begun] at taken ⊢
      exact .inr ⟨_, _, taken, rfl⟩
  · rw [if_neg padding] at taken ⊢
    cases value : value? c with
    | none => simp only [value, if_true, reduceCtorEq] at taken
    | some letter =>
      cases padded : group.padded with
      | true => simp only [value, padded, Bool.and_self, if_true, reduceCtorEq] at taken
      | false =>
        simp only [value, padded, Bool.and_false, Bool.false_eq_true, if_false] at taken ⊢
        exact .inr ⟨_, _, taken, rfl⟩

theorem strict_from_lenient (group : Group) (output bytes : Bytes) (text : List Char)
    (taken : decodeFrom true group output text = .ok bytes) : decodeFrom false group output text = .ok bytes := by
  induction text generalizing group output with
  | nil => exact taken
  | cons c rest ih =>
    rcases strict_step group output bytes c rest taken with done | ⟨next, read, later, same⟩
    · exact done
    · rw [same]
      exact ih next read later

theorem strict_lenient (text : String) (bytes : Bytes) (taken : decode text = .ok bytes) :
    decodeLenient text = .ok bytes := by
  rw [decode, decodeList] at taken
  rw [decodeLenient, decodeList]
  split at taken
  · cases taken
  · rename_i ascii
    split at taken
    · cases taken
    · rw [if_neg ascii]
      exact strict_from_lenient .start [] bytes text.toList taken

end Base64
end Gatehouse
