/-! Text and its UTF-8 bytes. Streams and files hold bytes, fields and names hold text;
`utf8` and `ofUtf8?` are the only passage between the two, and `ofUtf8?_utf8` says that
what was written as text reads back as that text. -/
namespace ArtifactGroups

abbrev Bytes := List UInt8

namespace Text

def utf8 (text : String) : Bytes := text.toByteArray.data.toList

def ofUtf8? (bytes : Bytes) : Option String := String.fromUTF8? ⟨bytes.toArray⟩

@[simp] theorem utf8_empty : utf8 "" = [] := rfl

@[simp] theorem utf8_append (s t : String) : utf8 (s ++ t) = utf8 s ++ utf8 t := by
  simp [utf8]

theorem utf8_injective {s t : String} (h : utf8 s = utf8 t) : s = t :=
  String.toByteArray_inj.1 (ByteArray.ext (Array.toList_inj.1 h))

@[simp] theorem ofUtf8?_utf8 (text : String) : ofUtf8? (utf8 text) = some text := by
  have h : (⟨(utf8 text).toArray⟩ : ByteArray) = text.toByteArray := by simp [utf8]
  simp [ofUtf8?, h, String.fromUTF8?, String.fromUTF8, text.isValidUTF8]

end Text

end ArtifactGroups
