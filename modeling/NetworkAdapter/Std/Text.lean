import Mathlib.Data.List.DropRight
import NetworkAdapter.Std.Json

/-!
# Texts and bytes

`text.encode()`, `raw.decode()` and `text.strip()`. A text is its UTF-8 encoding, so
decoding undoes encoding, and an encoded text has a newline byte only where it has a
newline.
-/

namespace NetworkAdapter.Text

/-- The byte `b'\n'`. -/
def newline : UInt8 := 10

/-- `text.encode()`. -/
def encode (text : String) : List UInt8 := text.toByteArray.data.toList

/-- `raw.decode()`. -/
def decode (raw : List UInt8) : Except PyError String :=
  match String.fromUTF8? ⟨raw.toArray⟩ with
  | some text => .ok text
  | none => .error .unicodeDecodeError

/-- The characters `strip` removes. -/
def isSpace (character : Char) : Bool :=
  let code := character.toNat
  (0x09 ≤ code && code ≤ 0x0d) || (0x1c ≤ code && code ≤ 0x20) || code == 0x85 || code == 0xa0 ||
    code == 0x1680 || (0x2000 ≤ code && code ≤ 0x200a) || code == 0x2028 || code == 0x2029 ||
      code == 0x202f || code == 0x205f || code == 0x3000

/-- `text.strip()`. -/
def strip (text : String) : String :=
  String.ofList ((text.toList.dropWhile isSpace).rdropWhile isSpace)

/-- Decoding undoes encoding. -/
theorem decode_encode (text : String) : decode (encode text) = .ok text := by
  have bytes : (⟨(encode text).toArray⟩ : ByteArray) = text.toByteArray := by simp [encode]
  rw [decode, bytes, String.fromUTF8?, dif_pos text.isValidUTF8]
  rfl

/-- What decodes is the encoding of what it decodes to. -/
theorem encode_decode {raw : List UInt8} {text : String} (decodes : decode raw = .ok text) :
    encode text = raw := by
  unfold decode at decodes
  split at decodes
  · next found =>
      cases decodes
      rw [String.fromUTF8?] at found
      split at found
      · cases found
        simp [encode, String.fromUTF8]
      · cases found
  · cases decodes

theorem encode_append (first second : String) :
    encode (first ++ second) = encode first ++ encode second := by
  simp [encode, String.toByteArray_append, ByteArray.data_append]

theorem encode_newline : encode "\n" = [newline] := by decide

/-- The bytes of a longer encoding are none of a shorter one. -/
theorem newline_ne_ofNat {byte : Nat} (high : 128 ≤ byte) (low : byte < 256) :
    newline ≠ UInt8.ofNat byte := by
  intro same
  have codes : 10 = byte % 256 := by
    simpa [newline] using congrArg UInt8.toNat same
  omega

/-- No character but the newline is encoded with its byte. -/
theorem newline_mem_utf8EncodeChar {character : Char}
    (member : newline ∈ String.utf8EncodeChar character) : character = '\n' := by
  simp only [String.utf8EncodeChar] at member
  split at member
  · next single =>
      have code : 10 = character.val.toNat % 256 := by
        simpa [newline] using congrArg UInt8.toNat (List.mem_singleton.mp member)
      have same : character.val.toNat = 10 := by omega
      exact Char.ext (UInt32.toNat_inj.mp same)
  · refine absurd member ?_
    split
    · simp only [List.mem_cons, List.not_mem_nil, or_false, not_or]
      exact ⟨newline_ne_ofNat (by omega) (by omega), newline_ne_ofNat (by omega) (by omega)⟩
    · split
      · simp only [List.mem_cons, List.not_mem_nil, or_false, not_or]
        exact ⟨newline_ne_ofNat (by omega) (by omega), newline_ne_ofNat (by omega) (by omega),
          newline_ne_ofNat (by omega) (by omega)⟩
      · simp only [List.mem_cons, List.not_mem_nil, or_false, not_or]
        exact ⟨newline_ne_ofNat (by omega) (by omega), newline_ne_ofNat (by omega) (by omega),
          newline_ne_ofNat (by omega) (by omega), newline_ne_ofNat (by omega) (by omega)⟩

/-- Nor has a text its byte without it. -/
theorem newline_mem_encode {text : String} (member : newline ∈ encode text) :
    '\n' ∈ text.toList := by
  rw [encode, ← String.utf8Encode_toList] at member
  generalize text.toList = characters at member
  induction characters with
  | nil => simp at member
  | cons character rest inductionHypothesis =>
      rw [List.utf8Encode_cons, ByteArray.data_append, Array.toList_append, List.mem_append,
        List.utf8Encode_singleton] at member
      rcases member with here | later
      · have same := newline_mem_utf8EncodeChar (by simpa using here)
        simp [same]
      · exact List.mem_cons_of_mem _ (inductionHypothesis later)

/-- A text with no space at its ends loses the newline after it, and nothing else. -/
theorem strip_append_newline {text : String}
    (first : ∀ character ∈ text.toList.head?, isSpace character = false)
    (last : ∀ character ∈ text.toList.getLast?, isSpace character = false) :
    strip (text ++ "\n") = text := by
  have newlineIsSpace : isSpace '\n' = true := by decide
  have front : (text.toList ++ ['\n']).dropWhile isSpace =
      if text.toList = [] then [] else text.toList ++ ['\n'] := by
    cases characters : text.toList with
    | nil => simp [newlineIsSpace]
    | cons character rest =>
        have kept := first character (by simp [characters])
        simp [kept]
  have back : text.toList.rdropWhile isSpace = text.toList := by
    rw [List.rdropWhile_eq_self_iff]
    intro nonempty
    rw [last _ (List.getLast_mem_getLast? nonempty)]
    exact Bool.false_ne_true
  rw [strip, String.toList_append]
  show String.ofList (((text.toList ++ ['\n']).dropWhile isSpace).rdropWhile isSpace) = text
  rw [front]
  split
  · next empty => rw [List.rdropWhile_nil, ← empty, String.ofList_toList]
  · rw [List.rdropWhile_concat_pos _ _ _ newlineIsSpace, back, String.ofList_toList]

/-- A text with no space at its ends is stripped of nothing. -/
theorem strip_eq_self {text : String}
    (first : ∀ character ∈ text.toList.head?, isSpace character = false)
    (last : ∀ character ∈ text.toList.getLast?, isSpace character = false) :
    strip text = text := by
  have front : text.toList.dropWhile isSpace = text.toList := by
    cases characters : text.toList with
    | nil => rfl
    | cons character rest =>
        have kept := first character (by simp [characters])
        simp [kept]
  have back : text.toList.rdropWhile isSpace = text.toList := by
    rw [List.rdropWhile_eq_self_iff]
    intro nonempty
    rw [last _ (List.getLast_mem_getLast? nonempty)]
    exact Bool.false_ne_true
  rw [strip, front, back, String.ofList_toList]

/-- What is left of a text is a part of it. -/
theorem strip_infix (text : String) : (strip text).toList <:+: text.toList := by
  rw [strip, String.toList_ofList]
  exact (List.rdropWhile_prefix _ _).isInfix.trans (List.dropWhile_suffix _).isInfix

theorem encode_infix {first second : String} (part : first.toList <:+: second.toList) :
    encode first <:+: encode second := by
  obtain ⟨before, behind, whole⟩ := part
  have same : second = String.ofList before ++ first ++ String.ofList behind := by
    rw [← String.toList_inj]
    simp [← whole]
  rw [same, encode_append, encode_append]
  exact ⟨_, _, rfl⟩

end NetworkAdapter.Text
