import Mathlib.Algebra.Order.BigOperators.Group.List
import Mathlib.Algebra.Order.Ring.Nat
import MovieFun.Foundation.Traverse

/-!
# Query strings

A query string lists parameters, separated by `&`, each with its value behind the first
`=`. A reader splits it there and decodes the escapes. It never gains bytes
(`QueryString.weight_build_le`), so a query that is put together from raw values is read
back exactly when no value has a separator or an escape (`QueryString.read_build_iff`).
-/

namespace QueryString

/-- The number of bytes of a text in UTF-8. -/
def weight (text : List Char) : Nat := (text.map Char.utf8Size).sum

/-- The value of a hexadecimal digit. -/
def hexDigit? (c : Char) : Option Nat :=
  if '0' ≤ c ∧ c ≤ '9' then some (c.toNat - '0'.toNat)
  else if 'A' ≤ c ∧ c ≤ 'F' then some (c.toNat - 'A'.toNat + 10)
  else if 'a' ≤ c ∧ c ≤ 'f' then some (c.toNat - 'a'.toNat + 10)
  else none

/-- The bytes of a text, where an escape is one byte. -/
def unescape : List Char → Option (List UInt8)
  | [] => some []
  | '%' :: high :: low :: rest => do
      let high ← hexDigit? high
      let low ← hexDigit? low
      let bytes ← unescape rest
      return UInt8.ofNat (16 * high + low) :: bytes
  | c :: rest =>
      if c = '%' then none
      else do
        let bytes ← unescape rest
        return String.utf8EncodeChar c ++ bytes

/-- A malformed escape has no decoding, and neither have bytes that are no text. -/
def percentDecode (text : List Char) : Option (List Char) := do
  let bytes ← unescape text
  let decoded ← String.fromUTF8? bytes.toByteArray
  return decoded.toList

/-- A name, with its value if it has one. -/
abbrev Parameter := List Char × Option (List Char)

/-- A parameter with its name and its value, if it has one, decoded. -/
def readParameter (text : List Char) : Option Parameter := do
  let name ← percentDecode (text.takeWhile (· ≠ '='))
  match text.dropWhile (· ≠ '=') with
  | [] => some (name, none)
  | _ :: value => do
      let value ← percentDecode value
      return (name, some value)

/-- The parameters of a query, in order. -/
def read (query : List Char) : Option (List Parameter) := (query.splitOn '&').mapM readParameter

/-- The text of a parameter whose name and value need no encoding. -/
def item : Parameter → List Char
  | (name, none) => name
  | (name, some value) => name ++ '=' :: value

/-- The query of parameters, without any escaping. -/
def build (parameters : List Parameter) : List Char := ['&'].intercalate (parameters.map item)

section Weight

variable {text decoded : List Char}

@[simp] theorem weight_nil : weight [] = 0 := rfl

@[simp] theorem weight_cons (c : Char) (text : List Char) :
    weight (c :: text) = c.utf8Size + weight text := rfl

@[simp] theorem weight_append (first second : List Char) :
    weight (first ++ second) = weight first + weight second := by
  rw [weight, weight, weight, List.map_append, List.sum_append]

/-- The weight is the number of bytes in UTF-8. -/
theorem weight_eq_length (text : List Char) :
    weight text = (text.flatMap String.utf8EncodeChar).length := by
  rw [weight, List.length_flatMap]
  simp only [String.length_utf8EncodeChar]

/-- A hexadecimal digit is no percent sign. -/
theorem ne_percent_of_hexDigit? {c : Char} {digit : Nat} (isDigit : hexDigit? c = some digit) :
    c ≠ '%' := by
  rintro rfl
  cases isDigit

/-- The bytes are no more than those of the text, and each escape loses two. -/
theorem length_unescape_le {bytes : List UInt8} (unescaped : unescape text = some bytes) :
    bytes.length + 2 * text.count '%' ≤ weight text := by
  induction text using unescape.induct generalizing bytes with
  | case1 =>
      cases unescaped
      rfl
  | case2 high low rest ih =>
      simp only [unescape, Option.bind_eq_bind, Option.bind_eq_some_iff] at unescaped
      obtain ⟨_, isHigh, _, isLow, later, unescaped, whole⟩ := unescaped
      cases whole
      have shorter := ih unescaped
      have highSize := high.utf8Size_pos
      have lowSize := low.utf8Size_pos
      have percentSize : Char.utf8Size '%' = 1 := rfl
      rw [List.count_cons_self, List.count_cons_of_ne (ne_percent_of_hexDigit? isHigh),
        List.count_cons_of_ne (ne_percent_of_hexDigit? isLow), List.length_cons, weight_cons,
        weight_cons, weight_cons]
      omega
  | case3 rest broken =>
      rw [unescape, if_pos rfl] at unescaped
      · cases unescaped
      · exact broken
  | case4 c rest complete plain ih =>
      rw [unescape, if_neg plain] at unescaped
      · obtain ⟨later, unescapedRest, whole⟩ := Option.bind_eq_some_iff.mp unescaped
        cases whole
        have shorter := ih unescapedRest
        rw [List.count_cons_of_ne plain, List.length_append, String.length_utf8EncodeChar,
          weight_cons]
        omega
      · exact complete

/-- A text without escapes is its own bytes. -/
theorem unescape_of_plain (plain : '%' ∉ text) :
    unescape text = some (text.flatMap String.utf8EncodeChar) := by
  induction text with
  | nil => rfl
  | cons c rest ih =>
      rw [List.mem_cons, not_or] at plain
      have notEscape : c ≠ '%' := fun same => plain.1 same.symm
      rw [unescape, if_neg notEscape, ih plain.2]
      · rfl
      · rintro _ _ _ rfl
        exact absurd rfl notEscape

/-- A text without escapes is its own decoding. -/
theorem percentDecode_of_plain (plain : '%' ∉ text) : percentDecode text = some text := by
  have valid :
      (text.flatMap String.utf8EncodeChar).toByteArray = (String.ofList text).toByteArray :=
    String.toByteArray_ofList.symm
  have read : String.fromUTF8? (String.ofList text).toByteArray = some (String.ofList text) :=
    dif_pos (String.ofList text).isValidUTF8
  rw [percentDecode, unescape_of_plain plain, Option.bind_eq_bind, Option.bind_some, valid, read]
  exact congrArg some String.toList_ofList

/-- Decoding gains no bytes, and loses two with each escape. -/
theorem weight_percentDecode_le (decodes : percentDecode text = some decoded) :
    weight decoded + 2 * text.count '%' ≤ weight text := by
  obtain ⟨bytes, unescaped, decodes⟩ := Option.bind_eq_some_iff.mp decodes
  obtain ⟨string, read, whole⟩ := Option.bind_eq_some_iff.mp decodes
  cases whole
  have sameBytes : weight string.toList = bytes.length := by
    unfold String.fromUTF8? at read
    split at read
    · next valid =>
      cases read
      have encoded : (String.fromUTF8 bytes.toByteArray valid).toList.utf8Encode =
          bytes.toByteArray := String.utf8Encode_toList
      rw [weight_eq_length, ← List.size_toByteArray, ← List.size_toByteArray]
      exact congrArg ByteArray.size encoded
    · cases read
  rw [sameBytes]
  exact length_unescape_le unescaped

end Weight

section Read

variable {text query : List Char} {parameter : Parameter} {parameters : List Parameter}

/-- A parameter has its name before the first `=` and its value behind it. -/
theorem readParameter_eq_some (reads : readParameter text = some parameter) :
    (∃ name, percentDecode text = some name ∧ parameter = (name, none)) ∨
      ∃ before after name value, text = before ++ '=' :: after ∧
        percentDecode before = some name ∧ percentDecode after = some value ∧
          parameter = (name, some value) := by
  have whole := List.takeWhile_append_dropWhile (p := (· ≠ '=')) (l := text)
  obtain ⟨name, decodes, reads⟩ := Option.bind_eq_some_iff.mp reads
  cases found : text.dropWhile (· ≠ '=') with
  | nil =>
      rw [found, List.append_nil] at whole
      rw [found] at reads
      cases reads
      exact .inl ⟨name, whole ▸ decodes, rfl⟩
  | cons c after =>
      have isSeparator : c = '=' := by
        have some : text.dropWhile (· ≠ '=') ≠ [] := by
          rw [found]
          exact List.cons_ne_nil c after
        have stops := List.head_dropWhile_not (· ≠ '=') some
        simp only [found, List.head_cons] at stops
        simpa using stops
      rw [found] at reads whole
      obtain ⟨value, decodesValue, whole'⟩ := Option.bind_eq_some_iff.mp reads
      cases whole'
      exact .inr ⟨_, after, name, value, isSeparator ▸ whole.symm, decodes, decodesValue, rfl⟩

/-- A parameter that was read is no longer than its text. -/
theorem weight_item_le (reads : readParameter text = some parameter) :
    weight (item parameter) + 2 * text.count '%' ≤ weight text := by
  rcases readParameter_eq_some reads with ⟨name, decodes, rfl⟩ |
    ⟨before, after, name, value, rfl, decodes, decodesValue, rfl⟩
  · exact weight_percentDecode_le decodes
  · have nameShorter := weight_percentDecode_le decodes
    have valueShorter := weight_percentDecode_le decodesValue
    have separator : ('=' == '%') = false := rfl
    rw [item, weight_append, weight_cons, weight_append, weight_cons, List.count_append,
      List.count_cons, separator]
    simp only [Bool.false_eq_true, if_false]
    omega

/-- So is a query. -/
theorem weight_build_le (reads : read query = some parameters) :
    weight (build parameters) + 2 * query.count '%' ≤ weight query := by
  have items : ∀ {items : List (List Char)} {parameters : List Parameter},
      items.mapM readParameter = some parameters →
        weight (build parameters) + 2 * (['&'].intercalate items).count '%' ≤
          weight (['&'].intercalate items) := by
    intro items
    induction items with
    | nil =>
        rintro _ ⟨⟩
        exact le_rfl
    | cons first rest ih =>
        intro parameters reads
        obtain ⟨parameter, later, readsFirst, readsLater, rfl⟩ :=
          Traverse.mapM_cons_eq_some.mp reads
        have firstShorter := weight_item_le readsFirst
        have laterShorter := ih readsLater
        cases rest with
        | nil =>
            cases readsLater
            simpa [build] using firstShorter
        | cons second rest =>
            obtain ⟨next, others, -, -, rfl⟩ := Traverse.mapM_cons_eq_some.mp readsLater
            have separator : ('&' == '%') = false := rfl
            simp only [build, List.map_cons, List.intercalate_cons_cons, weight_append,
              weight_cons, weight_nil, List.count_append, List.count_cons, List.count_nil,
              separator] at laterShorter ⊢
            simp only [Bool.false_eq_true, if_false] at *
            omega
  have shorter := items reads
  rwa [List.intercalate_splitOn] at shorter

/-- There is one part more than there are ampersands. -/
theorem length_splitOn (query : List Char) :
    (query.splitOn '&').length = query.count '&' + 1 := by
  induction query with
  | nil => rfl
  | cons c rest ih =>
      rw [List.splitOn_cons_eq_if_modifyHead, List.count_cons]
      split <;> simp [ih]

/-- A query has one parameter more than separators. -/
theorem length_of_read (reads : read query = some parameters) :
    parameters.length = query.count '&' + 1 := by
  rw [Traverse.length_mapM reads, length_splitOn]

/-- The separators of a query are those between its items and those inside. -/
theorem count_build (nonempty : parameters ≠ []) :
    (build parameters).count '&' + 1 =
      parameters.length + (parameters.map fun parameter => (item parameter).count '&').sum := by
  induction parameters with
  | nil => exact absurd rfl nonempty
  | cons first rest ih =>
      cases rest with
      | nil =>
          rw [build, List.map_singleton, List.intercalate_singleton, List.map_singleton,
            List.sum_singleton, List.length_singleton]
          exact Nat.add_comm _ _
      | cons second rest =>
          have later := ih (List.cons_ne_nil second rest)
          simp only [build, List.map_cons, List.intercalate_cons_cons, List.count_append,
            List.count_singleton_self, List.length_cons, List.sum_cons] at later ⊢
          omega

/-- A built query that is read as many parameters has no separator in an item. -/
theorem not_mem_item_of_read {built : List Parameter} (nonempty : built ≠ [])
    (reads : read (build built) = some parameters) (same : parameters.length = built.length) :
    ∀ parameter ∈ built, '&' ∉ item parameter := by
  intro parameter member inside
  have separators := length_of_read reads
  have counted := count_build nonempty
  have one : 0 < (item parameter).count '&' := List.count_pos_iff.mpr inside
  have part := List.single_le_sum (fun _ _ => Nat.zero_le _) _
    (List.mem_map_of_mem (f := fun parameter => (item parameter).count '&') member)
  omega

/-- Without separators in the items a built query is read item by item. -/
theorem read_build (nonempty : parameters ≠ [])
    (clean : ∀ parameter ∈ parameters, '&' ∉ item parameter) :
    read (build parameters) = (parameters.map item).mapM readParameter := by
  rw [read, build, List.splitOn_intercalate _ (List.forall_mem_map.mpr clean)]
  exact mt List.map_eq_nil_iff.mp nonempty

/-- What is joined has no other characters than its parts and what stands between them. -/
theorem forall_mem_intercalate {p : Char → Prop} {separator : List Char} {texts : List (List Char)}
    (between : ∀ c ∈ separator, p c) (part : ∀ text ∈ texts, ∀ c ∈ text, p c) :
    ∀ c ∈ separator.intercalate texts, p c := by
  induction texts with
  | nil => exact fun c none => absurd none List.not_mem_nil
  | cons first rest ih =>
      obtain ⟨isFirst, later⟩ := List.forall_mem_cons.mp part
      cases rest with
      | nil =>
          rw [List.intercalate_singleton]
          exact isFirst
      | cons second rest =>
          rw [List.intercalate_cons_cons, List.forall_mem_append, List.forall_mem_append]
          exact ⟨⟨isFirst, between⟩, ih later⟩

/-- What is joined has the characters of each part. -/
theorem mem_intercalate {c : Char} {separator text : List Char} {texts : List (List Char)}
    (member : text ∈ texts) (inside : c ∈ text) : c ∈ separator.intercalate texts := by
  induction texts with
  | nil => exact absurd member List.not_mem_nil
  | cons first rest ih =>
      cases rest with
      | nil =>
          rw [List.mem_singleton] at member
          rwa [List.intercalate_singleton, ← member]
      | cons second rest =>
          rw [List.intercalate_cons_cons, List.mem_append, List.mem_append]
          rcases List.mem_cons.mp member with rfl | later
          · exact .inl (.inl inside)
          · exact .inr (ih later)

/-- What is in an item is in the query. -/
theorem mem_build {c : Char} (member : parameter ∈ parameters) (inside : c ∈ item parameter) :
    c ∈ build parameters :=
  mem_intercalate (List.mem_map_of_mem member) inside

/-- A name that needs no escaping. -/
def PlainName (name : List Char) : Prop := '&' ∉ name ∧ '=' ∉ name ∧ '%' ∉ name

instance : DecidablePred PlainName := fun name => by
  unfold PlainName
  infer_instance

/-- A parameter with a value. -/
def valued : List Char × List Char → Parameter
  | (name, value) => (name, some value)

/-- The characters of a query are those of its names and values, and the separators. -/
theorem forall_mem_build {p : Char → Prop} {given : List (List Char × List Char)}
    (between : p '&') (separates : p '=') (name : ∀ parameter ∈ given, ∀ c ∈ parameter.1, p c)
    (value : ∀ parameter ∈ given, ∀ c ∈ parameter.2, p c) :
    ∀ c ∈ build (given.map valued), p c := by
  rw [build, List.map_map]
  refine forall_mem_intercalate (List.forall_mem_singleton.mpr between) ?_
  rw [List.forall_mem_map]
  intro parameter member
  change ∀ c ∈ parameter.1 ++ '=' :: parameter.2, p c
  rw [List.forall_mem_append, List.forall_mem_cons]
  exact ⟨name parameter member, separates, value parameter member⟩

/-- A parameter that needs no encoding is read back. -/
theorem readParameter_item {given : List Char × List Char} (named : PlainName given.1)
    (plain : '%' ∉ given.2) : readParameter (item (valued given)) = some (valued given) := by
  obtain ⟨name, value⟩ := given
  obtain ⟨-, separates, plainName⟩ := named
  have before : ∀ c ∈ name, decide (c ≠ '=') = true := fun c member =>
    decide_eq_true fun same => separates (same ▸ member)
  have front : (name ++ '=' :: value).takeWhile (· ≠ '=') = name := by
    rw [List.takeWhile_append_of_pos before]
    exact List.append_nil name
  have back : (name ++ '=' :: value).dropWhile (· ≠ '=') = '=' :: value := by
    rw [List.dropWhile_append_of_pos before]
    rfl
  rw [valued, item, readParameter, front, back, percentDecode_of_plain plainName]
  simp only [Option.bind_eq_bind, Option.bind_some, percentDecode_of_plain plain]
  rfl

/-- **A query of raw values is read back exactly if no value has a separator or an
escape.** -/
theorem read_build_iff {given : List (List Char × List Char)} (nonempty : given ≠ [])
    (named : ∀ parameter ∈ given, PlainName parameter.1) :
    read (build (given.map valued)) = some (given.map valued) ↔
      ∀ parameter ∈ given, '&' ∉ parameter.2 ∧ '%' ∉ parameter.2 := by
  have someParameters : given.map valued ≠ [] := mt List.map_eq_nil_iff.mp nonempty
  have inItem : ∀ parameter ∈ given, ∀ c ∈ parameter.2, c ∈ item (valued parameter) :=
    fun parameter _ c inside => List.mem_append_right _ (List.mem_cons_of_mem _ inside)
  constructor
  · intro reads parameter member
    have isParameter : valued parameter ∈ given.map valued := List.mem_map_of_mem member
    refine ⟨fun separator => ?_, fun escape => ?_⟩
    · exact not_mem_item_of_read someParameters reads rfl _ isParameter
        (inItem parameter member _ separator)
    · have shorter := weight_build_le reads
      have one : 0 < (build (given.map valued)).count '%' :=
        List.count_pos_iff.mpr (mem_build isParameter (inItem parameter member _ escape))
      omega
  · intro raw
    have clean : ∀ parameter ∈ given.map valued, '&' ∉ item parameter := by
      rw [List.forall_mem_map]
      intro parameter member inside
      rcases List.mem_append.mp inside with inName | inValue
      · exact (named parameter member).1 inName
      · rcases List.mem_cons.mp inValue with separator | inValue
        · cases separator
        · exact (raw parameter member).1 inValue
    rw [read_build someParameters clean, List.map_map]
    exact Traverse.mapM_map_eq_some fun parameter member =>
      readParameter_item (named parameter member) (raw parameter member).2

end Read

end QueryString
