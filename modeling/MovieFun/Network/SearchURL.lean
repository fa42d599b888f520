import Mathlib
import MovieFun.Foundation.QueryString
import MovieFun.Network.MovieService

/-!
# The URL of a search

`searchMovie` puts the search text into the URL as it is. The server then reads the text
back exactly when it has only characters a URL may contain, and none that is a separator,
starts a fragment or starts an escape (`reachesServer_iff`). The page is printed as a
32-bit number.
-/

namespace MovieFun

/-- The characters a URL may contain, with the sign of its escapes. -/
def isURLCharacter (c : Char) : Bool :=
  c.isAlphanum || "-._~:/?#[]@!$&'()*+,;=%".toList.contains c

/-- A string that is a URL. -/
structure URL where
  absoluteString : String
  valid : ∀ c ∈ absoluteString.toList, isURLCharacter c

namespace URL

/-- `URL(string:)` keeps a string as it is, or has no value. -/
def ofString? (string : String) : Option URL :=
  if valid : ∀ c ∈ string.toList, isURLCharacter c then some ⟨string, valid⟩ else none

/-- What stands between the first question mark and the fragment. -/
def query (url : URL) : Option (List Char) :=
  match (url.absoluteString.toList.takeWhile (· ≠ '#')).dropWhile (· ≠ '?') with
  | [] => none
  | _ :: query => some query

/-- The parameters that the server reads. -/
def parameters (url : URL) : Option (List QueryString.Parameter) :=
  url.query.bind QueryString.read

end URL

/-- The arguments of a format. -/
inductive CVarArg
  | string (value : String)
  | int (value : Int)

/-- `String(format:)` with the specifiers `%@` and `%d`. The second one prints the low 32
bits of its argument as a signed number. -/
def format : List Char → List CVarArg → List Char
  | [], _ => []
  | '%' :: '@' :: rest, .string value :: arguments => value.toList ++ format rest arguments
  | '%' :: 'd' :: rest, .int value :: arguments =>
      (toString (Int32.ofInt value).toInt).toList ++ format rest arguments
  | c :: rest, arguments => c :: format rest arguments

namespace Constants

/-- The key of the app. -/
def API_KEY : String := "b437aba8c658e4a9673766fc9923250f"

end Constants

/-- The languages that the app asks for. -/
inductive Language
  | en_US
deriving DecidableEq, Repr

/-- The name of a language in a URL. -/
def Language.rawValue : Language → String
  | en_US => "en_US"

namespace MovieService

/-- The URL of a search. -/
def SEARCH_MOVIE_URL : String :=
  "https://api.themoviedb.org/3/search/movie?api_key=%@&language=%@&query=%@&page=%d"

/-- The URL that `searchMovie` requests. Without one there is no request, and the
completion receives an error. -/
def searchMovieURL (searchText : String) (page : Int) (language : Language) : Option URL :=
  URL.ofString? (String.ofList (format SEARCH_MOVIE_URL.toList
    [.string Constants.API_KEY, .string language.rawValue, .string searchText, .int page]))

end MovieService

open QueryString MovieService

/-- The parameters of a search, with a page as it is printed. -/
def searchParameters (searchText page : String) (language : Language) :
    List (List Char × List Char) :=
  [("api_key".toList, Constants.API_KEY.toList), ("language".toList, language.rawValue.toList),
    ("query".toList, searchText.toList), ("page".toList, page.toList)]

/-- The request is issued, and the server reads the text and the page as they were given. -/
def ReachesServer (searchText : String) (page : Int) (language : Language) : Prop :=
  ∃ url, searchMovieURL searchText page language = some url ∧
    url.parameters = some ((searchParameters searchText (toString page) language).map valued)

/-- A text that a URL may contain and that a server reads as a value. -/
def Unreserved (searchText : String) : Prop :=
  ∀ c ∈ searchText.toList, isURLCharacter c ∧ c ≠ '&' ∧ c ≠ '#' ∧ c ≠ '%'

variable {searchText : String} {page : Int} {language : Language}

/-- What comes before the query of a search. -/
def searchAddress : List Char := "https://api.themoviedb.org/3/search/movie".toList

/-- What stands before the text of a search in the query. -/
def queryFront (language : Language) : List Char :=
  ("api_key=" ++ Constants.API_KEY ++ "&language=" ++ language.rawValue ++ "&query=").toList

/-- The query before the text has only characters of a URL, and no number sign. -/
theorem isURLCharacter_queryFront (language : Language) :
    ∀ c ∈ queryFront language, isURLCharacter c ∧ c ≠ '#' := by
  have each : (queryFront language).all fun c => isURLCharacter c && c != '#' := by
    cases language
    decide +kernel
  intro c member
  obtain ⟨allowed, notFragment⟩ := Bool.and_eq_true_iff.mp (List.all_eq_true.mp each c member)
  exact ⟨allowed, bne_iff_ne.mp notFragment⟩

/-- The query of a search is its front, the text and its back. -/
theorem build_searchParameters (searchText page : String) (language : Language) :
    build ((searchParameters searchText page language).map valued) =
      queryFront language ++ (searchText.toList ++ ("&page=".toList ++ page.toList)) := by
  cases language
  simp only [searchParameters, build, List.map_cons, List.map_nil, valued, item,
    List.intercalate_cons_cons, List.intercalate_singleton, List.append_assoc]
  rfl

/-- The address of a search has only characters of a URL, and none that ends it. -/
theorem isURLCharacter_searchAddress :
    ∀ c ∈ searchAddress, isURLCharacter c ∧ c ≠ '#' ∧ c ≠ '?' := by
  have each : searchAddress.all fun c => isURLCharacter c && (c != '#' && c != '?') := by
    decide +kernel
  intro c member
  have holds := List.all_eq_true.mp each c member
  simpa only [Bool.and_eq_true, bne_iff_ne] using holds

/-- The query that is requested, with the page as it is printed. -/
def sentQuery (searchText : String) (page : Int) (language : Language) : List Char :=
  build ((searchParameters searchText (toString (Int32.ofInt page).toInt) language).map valued)

/-- The format splices the arguments in as they are. -/
theorem format_SEARCH_MOVIE_URL :
    format SEARCH_MOVIE_URL.toList
        [.string Constants.API_KEY, .string language.rawValue, .string searchText, .int page] =
      searchAddress ++ '?' :: sentQuery searchText page language := by
  rw [sentQuery, build_searchParameters,
    ← List.append_nil (toString (Int32.ofInt page).toInt).toList]
  cases language
  rfl

/-- The text of a number has digits and a sign. -/
theorem isDigit_or_of_mem_toString {c : Char} {n : Int} (member : c ∈ (toString n).toList) :
    c.isDigit ∨ c = '-' := by
  rw [Int.toString_eq_repr, Int.repr_eq_if] at member
  split at member
  · rw [Nat.toList_repr] at member
    exact .inl (Nat.isDigit_of_mem_toDigits (by decide) (by decide) member)
  · rw [String.toList_append, List.mem_append, Nat.toList_repr] at member
    rcases member with sign | digit
    · exact .inr (List.mem_singleton.mp sign)
    · exact .inl (Nat.isDigit_of_mem_toDigits (by decide) (by decide) digit)

/-- A number has only unreserved characters. -/
theorem unreserved_toString (n : Int) : Unreserved (toString n) := by
  intro c member
  rcases isDigit_or_of_mem_toString member with digit | rfl
  · have alphanumeric : c.isAlphanum := by rw [Char.isAlphanum, digit, Bool.or_true]
    refine ⟨by rw [isURLCharacter, alphanumeric, Bool.true_or], ?_, ?_, ?_⟩
    all_goals
      rintro rfl
      cases digit
  · decide

/-- The query after the text has only characters of a URL, and no number sign. -/
theorem isURLCharacter_queryBack (n : Int) :
    ∀ c ∈ "&page=".toList ++ (toString n).toList, isURLCharacter c ∧ c ≠ '#' := by
  have each : "&page=".toList.all fun c => isURLCharacter c && c != '#' := by decide +kernel
  intro c member
  rcases List.mem_append.mp member with inName | inPage
  · obtain ⟨allowed, notFragment⟩ := Bool.and_eq_true_iff.mp (List.all_eq_true.mp each c inName)
    exact ⟨allowed, bne_iff_ne.mp notFragment⟩
  · exact ⟨(unreserved_toString n c inPage).1, (unreserved_toString n c inPage).2.2.1⟩

/-- A page is printed as it is given exactly if it is a 32-bit number. -/
theorem toString_int32_iff : toString (Int32.ofInt page).toInt = toString page ↔
    -2 ^ 31 ≤ page ∧ page < 2 ^ 31 := by
  rw [Int.toString_eq_repr, Int.toString_eq_repr, Int.repr_inj, Int32.toInt_ofInt,
    Int.bmod_eq_iff (by decide)]
  have size : (Int32.size : Int) = 2 ^ 32 := rfl
  rw [size]
  omega

/-- The names of the parameters need no encoding. -/
theorem plainName_searchParameters {page : String} :
    ∀ parameter ∈ searchParameters searchText page language, PlainName parameter.1 := by
  simp only [searchParameters, List.forall_mem_cons]
  exact ⟨by decide, by decide, by decide, by decide, fun _ none => absurd none List.not_mem_nil⟩

/-- The server reads what was spliced in, up to the first fragment. -/
theorem parameters_of_absoluteString {url : URL} {query : List Char}
    (absolute : url.absoluteString.toList = searchAddress ++ '?' :: query) :
    url.parameters = read (query.takeWhile (· ≠ '#')) := by
  have noFragment : ∀ c ∈ searchAddress, decide (c ≠ '#') = true := fun c member =>
    decide_eq_true (isURLCharacter_searchAddress c member).2.1
  have noMark : ∀ c ∈ searchAddress, decide (c ≠ '?') = true := fun c member =>
    decide_eq_true (isURLCharacter_searchAddress c member).2.2
  rw [URL.parameters, URL.query, absolute, List.takeWhile_append_of_pos noFragment,
    List.takeWhile_cons_of_pos rfl, List.dropWhile_append_of_pos noMark]
  rfl

/-- What is requested has characters of a URL exactly if the text has. -/
theorem isURLCharacter_request_iff :
    (∀ c ∈ searchAddress ++ '?' :: sentQuery searchText page language, isURLCharacter c) ↔
      ∀ c ∈ searchText.toList, isURLCharacter c := by
  rw [sentQuery, build_searchParameters, List.forall_mem_append, List.forall_mem_cons,
    List.forall_mem_append, List.forall_mem_append]
  constructor
  · exact fun ⟨_, _, _, text, _⟩ => text
  · intro text
    exact ⟨fun c member => (isURLCharacter_searchAddress c member).1, rfl,
      fun c member => (isURLCharacter_queryFront language c member).1, text,
      fun c member => (isURLCharacter_queryBack _ c member).1⟩

/-- The URL of a request is the format with its arguments. -/
theorem searchMovieURL_eq_some_iff {url : URL} :
    searchMovieURL searchText page language = some url ↔
      url.absoluteString.toList = searchAddress ++ '?' :: sentQuery searchText page language := by
  rw [searchMovieURL, format_SEARCH_MOVIE_URL, URL.ofString?]
  split
  · rw [Option.some.injEq]
    constructor
    · rintro rfl
      exact String.toList_ofList
    · intro absolute
      obtain ⟨absoluteString, _⟩ := url
      rw [URL.mk.injEq, ← absolute, String.ofList_toList]
  · next invalid =>
    refine iff_of_false (fun none => by cases none) fun absolute => invalid ?_
    rw [String.toList_ofList, ← absolute]
    exact url.valid

/-- A text with a fragment is cut off there, and the server misses its end. -/
theorem not_mem_of_read_cut {given : String}
    (reads : read ((sentQuery searchText page language).takeWhile (· ≠ '#')) =
      some ((searchParameters searchText given language).map valued)) :
    '#' ∉ searchText.toList := by
  intro fragment
  have shorter := weight_build_le reads
  have noFragment : ∀ c ∈ queryFront language, decide (c ≠ '#') = true := fun c member =>
    decide_eq_true (isURLCharacter_queryFront language c member).2
  obtain ⟨before, after, whole, first⟩ := List.eq_append_cons_of_mem fragment
  have beforeFragment : ∀ c ∈ before, decide (c ≠ '#') = true := fun c member =>
    decide_eq_true fun same => first (same ▸ member)
  rw [sentQuery, build_searchParameters, build_searchParameters,
    List.takeWhile_append_of_pos noFragment, whole, List.append_assoc, List.append_assoc,
    List.takeWhile_append_of_pos beforeFragment] at shorter
  simp only [List.cons_append, weight_append, weight_cons] at shorter
  have size := Char.utf8Size_pos '#'
  have stops : ∀ rest : List Char, ('#' :: rest).takeWhile (· ≠ '#') = [] := fun _ => rfl
  rw [stops, weight_nil] at shorter
  omega

/-- A text without a number sign is sent whole. -/
theorem takeWhile_sentQuery (noFragment : '#' ∉ searchText.toList) :
    (sentQuery searchText page language).takeWhile (· ≠ '#') =
      sentQuery searchText page language := by
  rw [List.takeWhile_eq_self_iff, sentQuery, build_searchParameters, List.forall_mem_append,
    List.forall_mem_append]
  exact ⟨fun c member => decide_eq_true (isURLCharacter_queryFront language c member).2,
    fun c member => decide_eq_true fun same => noFragment (same ▸ member),
    fun c member => decide_eq_true (isURLCharacter_queryBack _ c member).2⟩

/-- The server reads the page as it was printed, and a text without separators. -/
theorem page_of_read {given : String}
    (reads : read (sentQuery searchText page language) =
      some ((searchParameters searchText given language).map valued)) :
    toString (Int32.ofInt page).toInt = given ∧ '&' ∉ searchText.toList := by
  have nonempty : (searchParameters searchText (toString (Int32.ofInt page).toInt)
      language).map valued ≠ [] := List.cons_ne_nil _ _
  have clean := not_mem_item_of_read nonempty reads rfl
  constructor
  · rw [sentQuery, read_build nonempty clean] at reads
    obtain ⟨_, _, -, reads, same⟩ := Traverse.mapM_cons_eq_some.mp reads
    cases same
    obtain ⟨_, _, -, reads, same⟩ := Traverse.mapM_cons_eq_some.mp reads
    cases same
    obtain ⟨_, _, -, reads, same⟩ := Traverse.mapM_cons_eq_some.mp reads
    cases same
    obtain ⟨last, _, reads, -, same⟩ := Traverse.mapM_cons_eq_some.mp reads
    cases same
    have isPlain : '%' ∉ (toString (Int32.ofInt page).toInt).toList := fun member =>
      (unreserved_toString _ _ member).2.2.2 rfl
    have named : PlainName "page".toList := by decide
    have readsPage : readParameter (item (valued
        ("page".toList, (toString (Int32.ofInt page).toInt).toList))) = some (valued
          ("page".toList, (toString (Int32.ofInt page).toInt).toList)) :=
      readParameter_item named isPlain
    rw [readsPage, Option.some.injEq] at reads
    exact String.toList_inj.mp (Option.some.inj (congrArg Prod.snd reads))
  · intro separator
    apply clean (valued ("query".toList, searchText.toList)) (by simp [searchParameters])
    exact List.mem_append_right _ (List.mem_cons_of_mem _ separator)

/-- **A search reaches the server unchanged exactly if its text needs no escaping and its
page is a 32-bit number.** -/
theorem reachesServer_iff (searchText : String) (page : Int) (language : Language) :
    ReachesServer searchText page language ↔
      Unreserved searchText ∧ -2 ^ 31 ≤ page ∧ page < 2 ^ 31 := by
  rw [← toString_int32_iff]
  constructor
  · rintro ⟨url, requested, reads⟩
    have absolute := searchMovieURL_eq_some_iff.mp requested
    have allowed := isURLCharacter_request_iff.mp (absolute ▸ url.valid)
    rw [parameters_of_absoluteString absolute] at reads
    have noFragment := not_mem_of_read_cut reads
    rw [takeWhile_sentQuery noFragment] at reads
    obtain ⟨samePage, noSeparator⟩ := page_of_read reads
    rw [sentQuery, samePage] at reads
    have raw := (read_build_iff (List.cons_ne_nil _ _) plainName_searchParameters).mp reads
    obtain ⟨-, noEscape⟩ := raw ("query".toList, searchText.toList)
      (List.mem_cons_of_mem _ (List.mem_cons_of_mem _ List.mem_cons_self))
    refine ⟨fun c member => ⟨allowed c member, ?_, ?_, ?_⟩, samePage⟩
    · rintro rfl
      exact noSeparator member
    · rintro rfl
      exact noFragment member
    · rintro rfl
      exact noEscape member
  · rintro ⟨unreserved, samePage⟩
    have noFragment : '#' ∉ searchText.toList := fun member => (unreserved _ member).2.2.1 rfl
    have allowed : ∀ c ∈ (String.ofList (searchAddress ++ '?' ::
        sentQuery searchText page language)).toList, isURLCharacter c := by
      rw [String.toList_ofList, isURLCharacter_request_iff]
      exact fun c member => (unreserved c member).1
    refine ⟨⟨_, allowed⟩, searchMovieURL_eq_some_iff.mpr String.toList_ofList, ?_⟩
    rw [parameters_of_absoluteString String.toList_ofList, takeWhile_sentQuery noFragment,
      sentQuery, samePage]
    apply (read_build_iff (List.cons_ne_nil _ _) plainName_searchParameters).mpr
    have text : '&' ∉ searchText.toList ∧ '%' ∉ searchText.toList :=
      ⟨fun member => (unreserved _ member).2.1 rfl, fun member => (unreserved _ member).2.2.2 rfl⟩
    have isPage : '&' ∉ (toString page).toList ∧ '%' ∉ (toString page).toList :=
      ⟨fun member => (unreserved_toString page _ member).2.1 rfl,
        fun member => (unreserved_toString page _ member).2.2.2 rfl⟩
    simp only [List.forall_mem_cons]
    exact ⟨by decide, by cases language; decide, text, isPage,
      fun _ none => absurd none List.not_mem_nil⟩

/-- A text of two words issues no request. -/
theorem not_reachesServer_starWars : ¬ ReachesServer "star wars" 1 .en_US := by
  rintro ⟨url, requested, -⟩
  have allowed := isURLCharacter_request_iff.mp
    ((searchMovieURL_eq_some_iff.mp requested) ▸ url.valid)
  exact absurd (allowed ' ' (by decide)) (by decide)

end MovieFun
