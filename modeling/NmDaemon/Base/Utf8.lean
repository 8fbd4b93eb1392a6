import Mathlib.Data.List.Basic

/-!
# Text as bytes

The UTF-8 bytes of a text as a list, and back.
-/

namespace NmDaemon

namespace Utf8

theorem fromUTF8_eq_some {bytes : List UInt8} {text : String} :
    String.fromUTF8? ⟨bytes.toArray⟩ = some text ↔ bytes = text.toUTF8.data.toList := by
  constructor
  · intro h
    unfold String.fromUTF8? at h
    split_ifs at h
    obtain rfl := Option.some.inj h
    rfl
  · rintro rfl
    exact dif_pos text.isValidUTF8

theorem toUTF8_ofList (chars : List Char) :
    (String.ofList chars).toUTF8.data.toList = chars.flatMap String.utf8EncodeChar := by
  rw [String.toUTF8_eq_toByteArray, String.toByteArray_ofList, List.utf8Encode,
    List.data_toByteArray]

end Utf8

end NmDaemon
