import BinaryDiff.Text.Utf8
import Mathlib.Tactic.Common

/-!
# The bytes of a text

The bytes of a text are those of its characters, one after the other, so a text that is put together
is encoded part by part (`encode_append`).
-/

namespace BinaryDiff
namespace Utf8

lemma toList_loop (bytes : ByteArray) (place : Nat) (done : List UInt8) :
    ByteArray.toList.loop bytes place done = done.reverse ++ bytes.data.toList.drop place := by
  induction place, done using ByteArray.toList.loop.induct bytes with
  | case1 place done hlt ih =>
    have hrest : bytes.data.toList.drop place
        = bytes.get! place :: bytes.data.toList.drop (place + 1) := by
      have hget : bytes.get! place = bytes.data[place] := getElem!_pos bytes.data place hlt
      rw [List.drop_eq_getElem_cons (by simpa using hlt), hget, Array.getElem_toList]
    rw [ByteArray.toList.loop, if_pos hlt, ih, hrest, List.reverse_cons, List.append_assoc]
    rfl
  | case2 place done hend =>
    have hnone : bytes.data.toList.drop place = [] :=
      List.drop_of_length_le (by simpa using hend)
    rw [ByteArray.toList.loop, if_neg hend, hnone, List.append_nil]

lemma encode_eq (text : String) : encode text = text.toByteArray.data.toList := by
  rw [encode, String.toUTF8, ByteArray.toList, toList_loop]
  rfl

lemma encode_append (first second : String) :
    encode (first ++ second) = encode first ++ encode second := by
  rw [encode_eq, encode_eq, encode_eq, String.toByteArray_append, ByteArray.toList_data_append]

end Utf8
end BinaryDiff
