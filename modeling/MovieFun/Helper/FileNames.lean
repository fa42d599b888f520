import MovieFun.Foundation.QueryString
import MovieFun.Helper.Utils

/-!
# The file name of a picture

`getFileName` searches the string of a URL for a slash, a word, any one character and a word up
to the end. So it finds a name with exactly one character that is no word character, inside of
it. A name that is one word is found as long as it has three characters, unless the directory
is a word as well: then the one character is the slash before the name, and directory and name
come back together (`getFileName_eq_lastPathComponent_iff`).
-/

namespace MovieFun

open Utils

/-- The characters of a name in a URL, where an escape is a percent sign and two digits. -/
def isPathText : List Char → Bool
  | [] => true
  | '%' :: high :: low :: rest =>
      (QueryString.hexDigit? high).isSome && (QueryString.hexDigit? low).isSome && isPathText rest
  | c :: rest => (isWordCharacter c || c == '-' || c == '.') && isPathText rest

/-- The URL of a file, cut at the last slash. -/
structure FileURL where
  base : List Char
  lastPathComponent : List Char
  scheme : "file://".toList <+: base
  named : lastPathComponent ≠ []
  pathText : isPathText lastPathComponent = true

namespace FileURL

variable (url : FileURL)

/-- The URL as text. -/
def absoluteString : String := String.ofList (url.base ++ '/' :: url.lastPathComponent)

/-- The component before the last one. It is the host of a file at the root. -/
def parent : List Char := (url.base.reverse.takeWhile (· ≠ '/')).reverse

end FileURL

/-- A text of word characters. -/
def Word (text : List Char) : Prop := text ≠ [] ∧ ∀ c ∈ text, isWordCharacter c = true

/-- Two words around one character that belongs to neither, as in `IMG_0001.JPG`. -/
def OneBreak (name : List Char) : Prop :=
  ∃ front c back, name = front ++ c :: back ∧ Word front ∧ isWordCharacter c = false ∧ Word back

section Match

variable {text front name parent : List Char}

/-- The pattern matches a word, one character of the line, and a word. -/
theorem matchesFileName_iff : matchesFileName text = true ↔
    ∃ front c back, text = front ++ c :: back ∧ Word front ∧ c ≠ '\n' ∧ Word back := by
  unfold matchesFileName
  rw [List.any_eq_true]
  constructor
  · rintro ⟨i, inText, matched⟩
    rw [Bool.and_eq_true, Bool.and_eq_true, decide_eq_true_iff, List.all_eq_true] at matched
    obtain ⟨⟨positive, word⟩, rest⟩ := matched
    have front : text.take i ≠ [] := by
      rw [ne_eq, List.take_eq_nil_iff]
      rintro (rfl | rfl)
      · exact absurd positive (lt_irrefl 0)
      · exact absurd inText List.not_mem_nil
    split at rest
    · cases rest
    · next c back isDrop =>
      simp only [Bool.and_eq_true, bne_iff_ne, Bool.not_eq_true', List.isEmpty_eq_false_iff,
        List.all_eq_true] at rest
      obtain ⟨⟨noBreak, nonempty⟩, words⟩ := rest
      refine ⟨text.take i, c, back, ?_, ⟨front, word⟩, noBreak, nonempty, words⟩
      rw [← isDrop, List.take_append_drop]
  · rintro ⟨front, c, back, rfl, ⟨nonempty, word⟩, noBreak, ⟨later, words⟩⟩
    refine ⟨front.length, List.mem_range.mpr ?_, ?_⟩
    · rw [List.length_append, List.length_cons]
      omega
    · rw [List.take_left, List.drop_left]
      simp only [Bool.and_eq_true, decide_eq_true_iff, List.all_eq_true, bne_iff_ne,
        Bool.not_eq_true', List.isEmpty_eq_false_iff]
      exact ⟨⟨List.length_pos_iff.mpr nonempty, word⟩, ⟨noBreak, later⟩, words⟩

/-- A match has at most one character that is no word character. -/
theorem countP_le_one_of_matchesFileName (matched : matchesFileName text = true) :
    text.countP (fun c => !isWordCharacter c) ≤ 1 := by
  obtain ⟨front, c, back, rfl, ⟨-, word⟩, -, -, rest⟩ := matchesFileName_iff.mp matched
  have none : ∀ part : List Char, (∀ c ∈ part, isWordCharacter c = true) →
      part.countP (fun c => !isWordCharacter c) = 0 := by
    intro part words
    rw [List.countP_eq_zero]
    intro c member
    rw [words c member]
    decide
  rw [List.countP_append, List.countP_cons, none front word, none back rest]
  split <;> omega

/-- Over a slash only two words match. -/
theorem matchesFileName_slash_iff : matchesFileName (parent ++ '/' :: name) = true ↔
    Word parent ∧ Word name := by
  rw [matchesFileName_iff]
  constructor
  · rintro ⟨front, c, back, whole, word, -, rest⟩
    have noSlash : ∀ part : List Char, Word part → '/' ∉ part := by
      intro part words member
      exact absurd (words.2 _ member) (by decide)
    obtain ⟨rfl, -, rfl⟩ := (List.append_cons_inj_of_notMem (noSlash front word)
      (noSlash back rest)).mp whole.symm
    exact ⟨word, rest⟩
  · rintro ⟨word, rest⟩
    exact ⟨parent, '/', name, rfl, word, by decide, rest⟩

/-- Nothing matches over two slashes. -/
theorem not_matchesFileName_of_slashes (middle : List Char) :
    matchesFileName (front ++ '/' :: (middle ++ '/' :: name)) ≠ true := by
  intro matched
  have few := countP_le_one_of_matchesFileName matched
  rw [List.countP_append, List.countP_cons_of_pos (by decide), List.countP_append,
    List.countP_cons_of_pos (by decide)] at few
  omega

/-- What is found matches. -/
theorem matchesFileName_of_fileNameMatch {found : List Char}
    (isFound : fileNameMatch text = some found) : matchesFileName found = true := by
  induction text with
  | nil => cases isFound
  | cons c text ih =>
      rw [fileNameMatch] at isFound
      split at isFound
      · next here =>
        cases isFound
        exact here.2
      · exact ih isFound

/-- A file name ends with a word character. -/
theorem last_of_getFileName {urlStr fileName : String}
    (named : getFileName urlStr = some fileName) :
    ∃ front last, fileName.toList = front ++ [last] ∧ isWordCharacter last = true := by
  obtain ⟨found, isFound, rfl⟩ := Option.map_eq_some_iff.mp named
  obtain ⟨front, c, back, rfl, -, -, nonempty, word⟩ :=
    matchesFileName_iff.mp (matchesFileName_of_fileNameMatch isFound)
  refine ⟨front ++ c :: back.dropLast, back.getLast nonempty, ?_,
    word _ (List.getLast_mem nonempty)⟩
  rw [String.toList_ofList, List.append_assoc, List.cons_append,
    List.dropLast_append_getLast nonempty]

/-- What is before the first slash is passed over. -/
theorem fileNameMatch_append (noSlash : '/' ∉ front) (text : List Char) :
    fileNameMatch (front ++ text) = fileNameMatch text := by
  induction front with
  | nil => rfl
  | cons c front ih =>
      rw [List.mem_cons, not_or] at noSlash
      rw [List.cons_append, fileNameMatch, if_neg fun found => noSlash.1 found.1.symm,
        ih noSlash.2]

/-- The search goes as far as the slash before the directory. -/
theorem fileNameMatch_slash (noSlash : '/' ∉ parent) (front : List Char) :
    fileNameMatch (front ++ '/' :: (parent ++ '/' :: name)) =
      if matchesFileName (parent ++ '/' :: name) then some (parent ++ '/' :: name)
      else fileNameMatch ('/' :: name) := by
  induction front with
  | nil =>
      rw [List.nil_append, fileNameMatch, fileNameMatch_append noSlash]
      simp only [true_and]
  | cons c front ih =>
      rw [List.cons_append, fileNameMatch,
        if_neg fun found => not_matchesFileName_of_slashes parent found.2, ih]

/-- A name is found at its slash when it matches as a whole. -/
theorem fileNameMatch_name (noSlash : '/' ∉ name) :
    fileNameMatch ('/' :: name) = if matchesFileName name then some name else none := by
  have nothing : fileNameMatch name = none := by
    have passed := fileNameMatch_append noSlash []
    rwa [List.append_nil] at passed
  rw [fileNameMatch, nothing]
  simp only [true_and]

end Match

section Name

variable {name : List Char}

/-- A name of path characters has no slash and no line break. -/
theorem ne_of_mem_isPathText (pathText : isPathText name = true) :
    ∀ c ∈ name, c ≠ '/' ∧ c ≠ '\n' := by
  have digit : ∀ c, (QueryString.hexDigit? c).isSome = true → c ≠ '/' ∧ c ≠ '\n' := by
    intro c isDigit
    constructor
    · rintro rfl
      cases isDigit
    · rintro rfl
      cases isDigit
  fun_induction isPathText name with
  | case1 => exact fun _ member => absurd member List.not_mem_nil
  | case2 high low rest ih =>
      rw [Bool.and_eq_true, Bool.and_eq_true] at pathText
      obtain ⟨⟨first, second⟩, later⟩ := pathText
      intro c member
      rcases List.mem_cons.mp member with rfl | member
      · exact ⟨by decide, by decide⟩
      · rcases List.mem_cons.mp member with rfl | member
        · exact digit _ first
        · rcases List.mem_cons.mp member with rfl | member
          · exact digit _ second
          · exact ih later c member
  | case3 c rest notEscape ih =>
      rw [Bool.and_eq_true] at pathText
      refine List.forall_mem_cons.mpr ⟨?_, ih pathText.2⟩
      constructor
      · rintro rfl
        exact absurd pathText.1 (by decide)
      · rintro rfl
        exact absurd pathText.1 (by decide)

/-- A name matches as a whole when it has one break, or is a word of three characters. -/
theorem matchesFileName_name_iff (pathText : isPathText name = true) :
    matchesFileName name = true ↔ OneBreak name ∨ Word name ∧ 3 ≤ name.length := by
  rw [matchesFileName_iff]
  constructor
  · rintro ⟨front, c, back, rfl, word, -, rest⟩
    cases isWord : isWordCharacter c with
    | false => exact .inl ⟨front, c, back, rfl, word, isWord, rest⟩
    | true =>
        refine .inr ⟨⟨List.append_ne_nil_of_left_ne_nil word.1 _, fun d member => ?_⟩, ?_⟩
        · rcases List.mem_append.mp member with inFront | later
          · exact word.2 d inFront
          · rcases List.mem_cons.mp later with rfl | inBack
            · exact isWord
            · exact rest.2 d inBack
        · have first := List.length_pos_iff.mpr word.1
          have last := List.length_pos_iff.mpr rest.1
          rw [List.length_append, List.length_cons]
          omega
  · rintro (⟨front, c, back, rfl, word, -, rest⟩ | ⟨⟨-, words⟩, long⟩)
    · have member : c ∈ front ++ c :: back :=
        List.mem_append_right front List.mem_cons_self
      exact ⟨front, c, back, rfl, word, (ne_of_mem_isPathText pathText c member).2, rest⟩
    · match name, long with
      | a :: b :: c :: rest, _ =>
          refine ⟨[a], b, c :: rest, rfl, ⟨List.cons_ne_nil a [], ?_⟩, ?_,
            List.cons_ne_nil c rest, ?_⟩
          · exact List.forall_mem_singleton.mpr (words a List.mem_cons_self)
          · exact (ne_of_mem_isPathText pathText b
              (List.mem_cons_of_mem a List.mem_cons_self)).2
          · intro d member
            exact words d (List.mem_cons_of_mem a (List.mem_cons_of_mem b member))

/-- A word has no break. -/
theorem Word.not_oneBreak (word : Word name) : ¬ OneBreak name := by
  rintro ⟨front, c, back, rfl, -, isBreak, -⟩
  rw [word.2 c (List.mem_append_right front List.mem_cons_self)] at isBreak
  cases isBreak

end Name

namespace FileURL

variable (url : FileURL)

/-- The component before the last one is what follows a slash. -/
theorem base_eq : ∃ front, url.base = front ++ '/' :: url.parent ∧ '/' ∉ url.parent := by
  have inScheme : '/' ∈ url.base.reverse :=
    List.mem_reverse.mpr (url.scheme.subset (by decide))
  obtain ⟨after, before, isBase, noSlash⟩ := List.eq_append_cons_of_mem inScheme
  have isParent : url.parent = after.reverse := by
    rw [parent, isBase, List.takeWhile_append_of_pos, List.takeWhile_cons_of_neg, List.append_nil]
    · simp
    · intro c member
      exact decide_eq_true fun isSlash => noSlash (isSlash ▸ member)
  refine ⟨before.reverse, ?_, ?_⟩
  · have reversed := congrArg List.reverse isBase
    rwa [List.reverse_reverse, List.reverse_append, List.reverse_cons, List.append_assoc,
      List.singleton_append, ← isParent] at reversed
  · rw [isParent, List.mem_reverse]
    exact noSlash

/-- The last component has no slash. -/
theorem noSlash : '/' ∉ url.lastPathComponent :=
  fun member => (ne_of_mem_isPathText url.pathText _ member).1 rfl

/-- What `getFileName` finds in the URL of a file. -/
theorem getFileName_eq : getFileName url.absoluteString =
    if matchesFileName (url.parent ++ '/' :: url.lastPathComponent) then
      some (String.ofList (url.parent ++ '/' :: url.lastPathComponent))
    else if matchesFileName url.lastPathComponent then
      some (String.ofList url.lastPathComponent)
    else none := by
  obtain ⟨front, isBase, noSlash⟩ := url.base_eq
  rw [getFileName, absoluteString, String.toList_ofList, isBase, List.append_assoc,
    List.cons_append, fileNameMatch_slash noSlash, fileNameMatch_name url.noSlash]
  split
  · rfl
  · split <;> rfl

end FileURL

/-- **The file name of a picture.** `getFileName` returns the last component of the URL exactly
when that has one character that is no word character, between two words, or is a word of three
characters or more behind a component that is no word. -/
theorem getFileName_eq_lastPathComponent_iff (url : FileURL) :
    getFileName url.absoluteString = some (String.ofList url.lastPathComponent) ↔
      OneBreak url.lastPathComponent ∨
        (Word url.lastPathComponent ∧ 3 ≤ url.lastPathComponent.length ∧ ¬ Word url.parent) := by
  rw [url.getFileName_eq]
  by_cases together : Word url.parent ∧ Word url.lastPathComponent
  · rw [if_pos (matchesFileName_slash_iff.mpr together), Option.some.injEq, String.ofList_inj]
    constructor
    · intro same
      have lengths := congrArg List.length same
      rw [List.length_append, List.length_cons] at lengths
      omega
    · rintro (oneBreak | ⟨-, -, notWord⟩)
      · exact absurd oneBreak together.2.not_oneBreak
      · exact absurd together.1 notWord
  · have apart : OneBreak url.lastPathComponent ∨
        (Word url.lastPathComponent ∧ 3 ≤ url.lastPathComponent.length ∧ ¬ Word url.parent) ↔
          matchesFileName url.lastPathComponent = true := by
      rw [matchesFileName_name_iff url.pathText]
      refine or_congr_right ⟨fun long => ⟨long.1, long.2.1⟩, fun long => ?_⟩
      exact ⟨long.1, long.2, fun word => together ⟨word, long.1⟩⟩
    rw [apart, if_neg (mt matchesFileName_slash_iff.mp together)]
    split
    · next matched => exact iff_of_true rfl matched
    · next unmatched => exact iff_of_false nofun unmatched

/-- A picture with a hyphen in its name, in the folder of the camera. -/
def hyphenatedPicture : FileURL where
  base := "file:///var/mobile/Media/DCIM/100APPLE".toList
  lastPathComponent := "IMG-0001-1.JPG".toList
  scheme := by decide
  named := by decide
  pathText := by decide

/-- A picture without an extension, in a folder with a plain name. -/
def pictureInAlbum : FileURL where
  base := "file:///var/mobile/album".toList
  lastPathComponent := "sunset".toList
  scheme := by decide
  named := by decide
  pathText := by decide

/-- The first picture is dropped, and the second one is sent under another name. -/
theorem getFileName_ne_lastPathComponent :
    getFileName hyphenatedPicture.absoluteString = none ∧
      getFileName pictureInAlbum.absoluteString = some "album/sunset" ∧
      getFileName pictureInAlbum.absoluteString ≠
        some (String.ofList pictureInAlbum.lastPathComponent) := by
  refine ⟨?_, ?_, ?_⟩ <;> decide +kernel

end MovieFun
