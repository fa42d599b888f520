import MovieFun.Network.SearchURL
import MovieFun.View.DetailMovie.MovieDetailController
import MovieFun.View.MovieList.ListController

/-!
# What the movie requests name

A request names a resource by the components of its address and by its parameters. What is
written into a URL is read back when it has only characters that are no separators where
they stand (`names_of_plain`). So the request of a page of a list names it exactly when the
page is a 32-bit number (`listRequest_names_iff`), and the requests of a movie name it for
every id, while the check of an id lets through digits that no URL may contain
(`movieRequest_names_iff`).
-/

namespace MovieFun

open QueryString

/-- What a request names: the components of its address, and its parameters. -/
structure Resource where
  components : List (List Char)
  parameters : List (List Char × List Char)

/-- The text of a URL that names the resource. -/
def Resource.text (resource : Resource) : List Char :=
  ['/'].intercalate resource.components ++ '?' :: build (resource.parameters.map valued)

/-- The characters that stand for themselves in a component of an address. -/
def isComponentCharacter (c : Char) : Bool :=
  isURLCharacter c && (c != '/' && (c != '?' && c != '#'))

/-- The characters that stand for themselves in the value of a parameter. -/
def isValueCharacter (c : Char) : Bool :=
  isURLCharacter c && (c != '&' && (c != '#' && c != '%'))

/-- The name and the value are written in a URL as they are, and the name is told from the value.
-/
def plainParameter (parameter : List Char × List Char) : Bool :=
  parameter.1.all (fun c => isValueCharacter c && c != '=') && parameter.2.all isValueCharacter

/-- The components and parameters have only characters that stand for themselves. -/
structure Resource.Plain (resource : Resource) : Prop where
  components : resource.components ≠ []
  component : ∀ component ∈ resource.components, component.all isComponentCharacter
  parameters : resource.parameters ≠ []
  parameter : ∀ parameter ∈ resource.parameters, plainParameter parameter

/-- What stands before the query and the fragment. -/
def URL.address (url : URL) : List Char :=
  url.absoluteString.toList.takeWhile fun c => c ≠ '?' ∧ c ≠ '#'

/-- The server reads the components and the parameters of the resource. -/
structure URL.Names (url : URL) (resource : Resource) : Prop where
  components : url.address.splitOn '/' = resource.components
  parameters : url.parameters = some (resource.parameters.map valued)

/-- The characters of a component. -/
theorem isComponentCharacter_iff {c : Char} :
    isComponentCharacter c ↔ isURLCharacter c ∧ c ≠ '/' ∧ c ≠ '?' ∧ c ≠ '#' := by
  simp only [isComponentCharacter, Bool.and_eq_true, bne_iff_ne]

/-- The characters of a value. -/
theorem isValueCharacter_iff {c : Char} :
    isValueCharacter c ↔ isURLCharacter c ∧ c ≠ '&' ∧ c ≠ '#' ∧ c ≠ '%' := by
  simp only [isValueCharacter, Bool.and_eq_true, bne_iff_ne]

/-- What a parameter needs to be written as it is. -/
theorem plainParameter_iff {parameter : List Char × List Char} :
    plainParameter parameter ↔
      (∀ c ∈ parameter.1, (isURLCharacter c ∧ c ≠ '&' ∧ c ≠ '#' ∧ c ≠ '%') ∧ c ≠ '=') ∧
        ∀ c ∈ parameter.2, isURLCharacter c ∧ c ≠ '&' ∧ c ≠ '#' ∧ c ≠ '%' := by
  simp only [plainParameter, Bool.and_eq_true, List.all_eq_true, bne_iff_ne,
    isValueCharacter_iff]

namespace Resource

variable {resource : Resource}

/-- The characters of a component of a plain resource. -/
theorem Plain.isComponentCharacter (plain : resource.Plain) {component : List Char}
    (member : component ∈ resource.components) {c : Char} (inside : c ∈ component) :
    isURLCharacter c ∧ c ≠ '/' ∧ c ≠ '?' ∧ c ≠ '#' :=
  isComponentCharacter_iff.mp (List.all_eq_true.mp (plain.component component member) c inside)

/-- The address of a plain resource has neither a query nor a fragment. -/
theorem Plain.forall_mem_address (plain : resource.Plain) :
    ∀ c ∈ ['/'].intercalate resource.components, isURLCharacter c ∧ c ≠ '?' ∧ c ≠ '#' := by
  refine forall_mem_intercalate (List.forall_mem_singleton.mpr ⟨by decide, by decide, by decide⟩) ?_
  intro component member c inside
  obtain ⟨allowed, -, noQuery, noFragment⟩ := plain.isComponentCharacter member inside
  exact ⟨allowed, noQuery, noFragment⟩

/-- The query of a plain resource has no fragment. -/
theorem Plain.forall_mem_query (plain : resource.Plain) :
    ∀ c ∈ build (resource.parameters.map valued), isURLCharacter c ∧ c ≠ '#' := by
  refine forall_mem_build ⟨by decide, by decide⟩ ⟨by decide, by decide⟩ ?_ ?_
  · intro parameter member c inside
    obtain ⟨name, -⟩ := plainParameter_iff.mp (plain.parameter parameter member)
    obtain ⟨⟨allowed, -, noFragment, -⟩, -⟩ := name c inside
    exact ⟨allowed, noFragment⟩
  · intro parameter member c inside
    obtain ⟨-, value⟩ := plainParameter_iff.mp (plain.parameter parameter member)
    obtain ⟨allowed, -, noFragment, -⟩ := value c inside
    exact ⟨allowed, noFragment⟩

/-- The names of the parameters of a plain resource need no encoding. -/
theorem Plain.plainName (plain : resource.Plain) :
    ∀ parameter ∈ resource.parameters, PlainName parameter.1 := by
  intro parameter member
  obtain ⟨name, -⟩ := plainParameter_iff.mp (plain.parameter parameter member)
  exact ⟨fun inside => (name _ inside).1.2.1 rfl, fun inside => (name _ inside).2 rfl,
    fun inside => (name _ inside).1.2.2.2 rfl⟩

/-- **A plain resource is read back** from the URL that is written for it. -/
theorem names_of_plain (plain : resource.Plain) :
    ∃ url, URL.ofString? (String.ofList resource.text) = some url ∧ url.Names resource := by
  have allowed : ∀ c ∈ (String.ofList resource.text).toList, isURLCharacter c := by
    rw [String.toList_ofList, text, List.forall_mem_append, List.forall_mem_cons]
    exact ⟨fun c member => (plain.forall_mem_address c member).1, by decide,
      fun c member => (plain.forall_mem_query c member).1⟩
  refine ⟨⟨String.ofList resource.text, allowed⟩, dif_pos allowed, ?_, ?_⟩
  · have stops : ∀ c ∈ ['/'].intercalate resource.components,
        decide (c ≠ '?' ∧ c ≠ '#') = true :=
      fun c member => decide_eq_true (plain.forall_mem_address c member).2
    rw [URL.address, String.toList_ofList, text, List.takeWhile_append_of_pos stops,
      List.takeWhile_cons_of_neg (by decide), List.append_nil]
    refine List.splitOn_intercalate '/' ?_ plain.components
    exact fun component member separator => (plain.isComponentCharacter member separator).2.1 rfl
  · have noFragment : ∀ c ∈ resource.text, decide (c ≠ '#') = true := by
      rw [text, List.forall_mem_append, List.forall_mem_cons]
      exact ⟨fun c member => decide_eq_true (plain.forall_mem_address c member).2.2, by decide,
        fun c member => decide_eq_true (plain.forall_mem_query c member).2⟩
    have noMark : ∀ c ∈ ['/'].intercalate resource.components, decide (c ≠ '?') = true :=
      fun c member => decide_eq_true (plain.forall_mem_address c member).2.1
    rw [URL.parameters, URL.query, String.toList_ofList,
      List.takeWhile_eq_self_iff.mpr noFragment, text, List.dropWhile_append_of_pos noMark,
      List.dropWhile_cons_of_neg (by decide)]
    refine (read_build_iff plain.parameters plain.plainName).mpr fun parameter member => ?_
    obtain ⟨-, value⟩ := plainParameter_iff.mp (plain.parameter parameter member)
    exact ⟨fun separator => (value _ separator).2.1 rfl, fun escape => (value _ escape).2.2.2 rfl⟩

end Resource

namespace MovieService

/-- The URL of a movie. -/
def MOVIE_DETAIL_URL : String := "https://api.themoviedb.org/3/movie/%@?api_key=%@&language=%@"

/-- The URL of the cast of a movie. -/
def MOVIE_CAST_URL : String := "https://api.themoviedb.org/3/movie/%@/credits?api_key=%@"

/-- The URL of the videos of a movie. -/
def VIDEO_MOVIE_URL : String :=
  "https://api.themoviedb.org/3/movie/%@/videos?api_key=%@&language=%@"

/-- The URL of a page of a list. -/
def fetchMovieURL (url : String) (language : Language) (page : Int) : Option URL :=
  URL.ofString? (String.ofList (format url.toList
    [.string Constants.API_KEY, .string language.rawValue, .int page]))

/-- The URL that `fetchMovie` asks for a movie. -/
def fetchMovieOfIdURL (movieId : String) (language : Language) : Option URL :=
  URL.ofString? (String.ofList (format MOVIE_DETAIL_URL.toList
    [.string movieId, .string Constants.API_KEY, .string language.rawValue]))

/-- The URL that `fetchMovieCast` asks for a movie. -/
def fetchMovieCastURL (movieId : String) : Option URL :=
  URL.ofString? (String.ofList (format MOVIE_CAST_URL.toList
    [.string movieId, .string Constants.API_KEY]))

/-- The URL that `fetchMovieVideo` asks for a movie. -/
def fetchMovieVideoURL (movieId : String) (language : Language) : Option URL :=
  URL.ofString? (String.ofList (format VIDEO_MOVIE_URL.toList
    [.string movieId, .string Constants.API_KEY, .string language.rawValue]))

/-- The address of the service, with the components of a resource of it. -/
def components (resource : List String) : List (List Char) :=
  (["https:", "", "api.themoviedb.org", "3", "movie"] ++ resource).map String.toList

/-- The parameter with the key of the app. -/
def keyParameter : List Char × List Char := ("api_key".toList, Constants.API_KEY.toList)

/-- The parameter with the language. -/
def languageParameter (language : Language) : List Char × List Char :=
  ("language".toList, language.rawValue.toList)

end MovieService

open MovieService

/-- The last component of the address of a list. -/
def ListSubclass.component : ListSubclass → String
  | newMovieList => "upcoming"
  | nowMovieList => "now_playing"
  | topRateList => "top_rated"
  | trailerMovieList => "popular"

/-- A page of a list, with the page as it is printed. -/
def ListSubclass.resource (list : ListSubclass) (language : Language) (page : String) :
    Resource where
  components := components [list.component]
  parameters := [keyParameter, languageParameter language, ("page".toList, page.toList)]

/-- The requests for one movie. -/
inductive MovieIdRequest
  | detail
  | cast
  | videos
deriving DecidableEq, Repr

namespace MovieIdRequest

/-- The URL of a request about a movie. -/
def url (movieId : String) (language : Language) : MovieIdRequest → Option URL
  | detail => fetchMovieOfIdURL movieId language
  | cast => fetchMovieCastURL movieId
  | videos => fetchMovieVideoURL movieId language

/-- What a request about a movie is to name. -/
def resource (movieId : String) (language : Language) : MovieIdRequest → Resource
  | detail =>
      { components := components [movieId]
        parameters := [keyParameter, languageParameter language] }
  | cast =>
      { components := components [movieId, "credits"]
        parameters := [keyParameter] }
  | videos =>
      { components := components [movieId, "videos"]
        parameters := [keyParameter, languageParameter language] }

end MovieIdRequest

/-- The format of a list splices its arguments in as they are. -/
theorem listURL_eq (list : ListSubclass) (language : Language) (page : Int) :
    fetchMovieURL list.listViewModel.url language page =
      URL.ofString? (String.ofList
        (list.resource language (toString (Int32.ofInt page).toInt)).text) := by
  have spliced : format list.listViewModel.url.toList
      [.string Constants.API_KEY, .string language.rawValue, .int page] =
        (list.resource language (toString (Int32.ofInt page).toInt)).text := by
    cases list <;> cases language <;> rfl
  rw [fetchMovieURL, spliced]

/-- The formats of a movie splice their arguments in as they are. -/
theorem movieURL_eq (movieId : String) (language : Language) (request : MovieIdRequest) :
    request.url movieId language =
      URL.ofString? (String.ofList (request.resource movieId language).text) := by
  cases request with
  | _ =>
      simp only [MovieIdRequest.url, fetchMovieOfIdURL, fetchMovieCastURL, fetchMovieVideoURL,
        Resource.text, MovieIdRequest.resource, components, List.map_cons, List.map_nil,
        List.cons_append, List.nil_append, List.intercalate_cons_cons,
        List.intercalate_singleton, List.append_assoc]
      cases language
      rfl

/-- The characters of a URL are those of ASCII. -/
theorem toNat_lt_of_isURLCharacter {c : Char} (allowed : isURLCharacter c) : c.toNat < 128 := by
  rcases Bool.or_eq_true_iff.mp allowed with alphanumeric | mark
  · simp only [Char.isAlphanum, Char.isAlpha, Char.isUpper, Char.isLower, Char.isDigit,
      Bool.or_eq_true, Bool.and_eq_true, decide_eq_true_eq, ge_iff_le,
      UInt32.le_iff_toNat_le] at alphanumeric
    change c.val.toNat < 128
    rcases alphanumeric with (⟨-, upper⟩ | ⟨-, lower⟩) | ⟨-, digit⟩
    · exact Nat.lt_of_le_of_lt upper (by decide)
    · exact Nat.lt_of_le_of_lt lower (by decide)
    · exact Nat.lt_of_le_of_lt digit (by decide)
  · have marks : ("-._~:/?#[]@!$&'()*+,;=%".toList.all fun mark => mark.toNat < 128) = true := by
      decide +kernel
    exact of_decide_eq_true (List.all_eq_true.mp marks c (List.contains_iff_mem.mp mark))

theorem isDigit_iff_toNat {c : Char} : c.isDigit = true ↔ 48 ≤ c.toNat ∧ c.toNat < 58 := by
  simp only [Char.isDigit, Bool.and_eq_true, decide_eq_true_eq, ge_iff_le, UInt32.le_iff_toNat_le]
  change 48 ≤ c.toNat ∧ c.toNat ≤ 57 ↔ _
  omega

/-- A decimal digit that a URL may contain is one of ASCII. -/
theorem isDigit_of_isURLCharacter {c : Char} (digit : Utils.isDecimalDigit c)
    (allowed : isURLCharacter c) : c.isDigit := by
  have zeros : ∀ first ∈ Utils.decimalZeros, first = 48 ∨ 128 ≤ first := by decide +kernel
  obtain ⟨first, member, within⟩ := List.any_eq_true.mp digit
  have ascii := toNat_lt_of_isURLCharacter allowed
  have bounds := Bool.and_eq_true_iff.mp within
  simp only [decide_eq_true_eq] at bounds
  rw [isDigit_iff_toNat]
  rcases zeros first member with rfl | beyond
  · exact bounds
  · omega

/-- An ASCII digit is a decimal digit. -/
theorem isDecimalDigit_of_isDigit {c : Char} (digit : c.isDigit) : Utils.isDecimalDigit c := by
  refine List.any_eq_true.mpr ⟨48, by decide, ?_⟩
  rw [Bool.and_eq_true_iff, decide_eq_true_iff, decide_eq_true_iff]
  exact isDigit_iff_toNat.mp digit

/-- The parts of the address of the service have no separators. -/
theorem plain_components {resource : List String}
    (plain : ∀ component ∈ resource, component.toList.all isComponentCharacter) :
    ∀ component ∈ components resource, component.all isComponentCharacter := by
  have service : ["https:", "", "api.themoviedb.org", "3", "movie"].all
      (fun component => component.toList.all isComponentCharacter) = true := by
    decide +kernel
  rw [components, List.forall_mem_map, List.forall_mem_append]
  exact ⟨List.all_eq_true.mp service, plain⟩

/-- The key is written as it is. -/
theorem plain_keyParameter : plainParameter keyParameter := by
  decide +kernel

/-- The language is written as it is. -/
theorem plain_languageParameter (language : Language) :
    plainParameter (languageParameter language) := by
  cases language
  decide +kernel

/-- The names of the four lists are written as they are. -/
theorem isComponentCharacter_listComponent (list : ListSubclass) :
    list.component.toList.all isComponentCharacter := by
  cases list <;> decide +kernel

/-- A page of a list is named plainly by every number. -/
theorem plain_listResource (list : ListSubclass) (language : Language) (page : Int) :
    (list.resource language (toString page)).Plain where
  components := List.cons_ne_nil _ _
  component := plain_components
    (List.forall_mem_singleton.mpr (isComponentCharacter_listComponent list))
  parameters := List.cons_ne_nil _ _
  parameter := by
    have name : "page".toList.all (fun c => isValueCharacter c && c != '=') = true := by
      decide +kernel
    have value : (toString page).toList.all isValueCharacter = true :=
      List.all_eq_true.mpr fun c member =>
        isValueCharacter_iff.mpr (unreserved_toString page c member)
    refine List.forall_mem_cons.mpr ⟨plain_keyParameter, List.forall_mem_cons.mpr
      ⟨plain_languageParameter language, List.forall_mem_singleton.mpr ?_⟩⟩
    exact Bool.and_eq_true_iff.mpr ⟨name, value⟩

/-- A movie is named plainly by an id without separators. -/
theorem plain_movieResource {movieId : String}
    (plain : movieId.toList.all isComponentCharacter) (language : Language)
    (request : MovieIdRequest) : (request.resource movieId language).Plain := by
  have key : ∀ parameter ∈ [keyParameter], plainParameter parameter :=
    List.forall_mem_singleton.mpr plain_keyParameter
  have keyAndLanguage : ∀ parameter ∈ [keyParameter, languageParameter language],
      plainParameter parameter :=
    List.forall_mem_cons.mpr ⟨plain_keyParameter,
      List.forall_mem_singleton.mpr (plain_languageParameter language)⟩
  have inner : ∀ component ∈ ["credits", "videos"],
      component.toList.all isComponentCharacter := by
    decide +kernel
  cases request with
  | detail =>
      exact ⟨List.cons_ne_nil _ _, plain_components (List.forall_mem_singleton.mpr plain),
        List.cons_ne_nil _ _, keyAndLanguage⟩
  | cast =>
      refine ⟨List.cons_ne_nil _ _, plain_components ?_, List.cons_ne_nil _ _, key⟩
      exact List.forall_mem_cons.mpr ⟨plain, List.forall_mem_singleton.mpr
        (inner _ List.mem_cons_self)⟩
  | videos =>
      refine ⟨List.cons_ne_nil _ _, plain_components ?_, List.cons_ne_nil _ _, keyAndLanguage⟩
      exact List.forall_mem_cons.mpr ⟨plain, List.forall_mem_singleton.mpr
        (inner _ (List.mem_cons_of_mem _ List.mem_cons_self))⟩

/-- The digits of a number are no separators, and its sign is none. -/
theorem isComponentCharacter_of_isDigit {c : Char} (digit : c.isDigit ∨ c = '-') :
    isComponentCharacter c := by
  rcases digit with digit | rfl
  · have alphanumeric : c.isAlphanum := by rw [Char.isAlphanum, digit, Bool.or_true]
    rw [isComponentCharacter_iff]
    refine ⟨by rw [isURLCharacter, alphanumeric, Bool.true_or], ?_, ?_, ?_⟩
    all_goals
      rintro rfl
      cases digit
  · decide

/-- The text of an id passes the check of the detail screen exactly without a sign. -/
theorem validateNumber_toString_iff (id : Int) :
    Utils.validateNumber (some (toString id)) = true ↔ 0 ≤ id := by
  rw [Utils.validateNumber, Bool.and_eq_true_iff, Int.toString_eq_repr, Int.repr_eq_if]
  split
  · next nonnegative =>
    refine iff_of_true ⟨?_, ?_⟩ nonnegative
    · rw [Bool.not_eq_true', ← Bool.not_eq_true, String.isEmpty_iff]
      exact Nat.repr_ne_empty
    · rw [List.all_eq_true, Nat.toList_repr]
      exact fun c member => isDecimalDigit_of_isDigit
        (Nat.isDigit_of_mem_toDigits (by decide) (by decide) member)
  · next negative =>
    refine iff_of_false (fun ⟨_, digits⟩ => ?_) negative
    have sign : Utils.isDecimalDigit '-' := by
      refine List.all_eq_true.mp digits _ ?_
      rw [String.toList_append, List.mem_append]
      exact .inl (List.mem_singleton.mpr rfl)
    revert sign
    decide

/-- **The request of a page of a list names it exactly if the page is a 32-bit number.** -/
theorem listRequest_names_iff (list : ListSubclass) (language : Language) (page : Int) :
    (∃ url, fetchMovieURL list.listViewModel.url language page = some url ∧
        url.Names (list.resource language (toString page))) ↔
      -2 ^ 31 ≤ page ∧ page < 2 ^ 31 := by
  obtain ⟨sent, isSent, names⟩ :=
    Resource.names_of_plain (plain_listResource list language (Int32.ofInt page).toInt)
  rw [← listURL_eq] at isSent
  rw [← toString_int32_iff]
  constructor
  · rintro ⟨url, isURL, namesPage⟩
    cases isURL.symm.trans isSent
    have same := Option.some.inj (names.parameters.symm.trans namesPage.parameters)
    simp only [ListSubclass.resource, List.map_cons, List.map_nil, List.cons.injEq, true_and,
      and_true, valued, Prod.mk.injEq, Option.some.injEq] at same
    exact String.toList_inj.mp same
  · intro same
    rw [same] at names
    exact ⟨sent, isSent, names⟩

/-- A text that is a URL has only characters of one. -/
theorem isURLCharacter_of_ofString? {text : List Char} {url : URL}
    (isURL : URL.ofString? (String.ofList text) = some url) : ∀ c ∈ text, isURLCharacter c := by
  unfold URL.ofString? at isURL
  split at isURL
  · next valid => exact fun c member => valid c (by rw [String.toList_ofList]; exact member)
  · cases isURL

/-- The id is in the text of the request. -/
theorem mem_text_of_mem_movieId {movieId : String} {c : Char} (member : c ∈ movieId.toList)
    (language : Language) (request : MovieIdRequest) :
    c ∈ (request.resource movieId language).text := by
  have named : movieId.toList ∈ (request.resource movieId language).components := by
    cases request with
    | _ => exact List.mem_map_of_mem (List.mem_append_right _ List.mem_cons_self)
  exact List.mem_append_left _ (mem_intercalate named member)

/-- **The requests of a movie name it** for an id that passes the check of the detail screen
exactly if its digits are those of ASCII. -/
theorem movieRequest_names_iff {movieId : String}
    (accepted : Utils.validateNumber (some movieId) = true) (language : Language)
    (request : MovieIdRequest) :
    (∃ url, request.url movieId language = some url ∧
        url.Names (request.resource movieId language)) ↔ ∀ c ∈ movieId.toList, c.isDigit := by
  constructor
  · rintro ⟨url, isURL, -⟩ c member
    obtain ⟨-, digits⟩ := Bool.and_eq_true_iff.mp accepted
    refine isDigit_of_isURLCharacter (List.all_eq_true.mp digits c member) ?_
    rw [movieURL_eq] at isURL
    exact isURLCharacter_of_ofString? isURL c (mem_text_of_mem_movieId member language request)
  · intro digits
    rw [movieURL_eq]
    exact Resource.names_of_plain (plain_movieResource
      (List.all_eq_true.mpr fun c member =>
        isComponentCharacter_of_isDigit (.inl (digits c member))) language request)

/-- A movie is asked for by its number, and not by the same digits of another script. -/
theorem movieRequest_names_scripts :
    (∃ url, MovieIdRequest.videos.url "550" .en_US = some url ∧
        url.Names (MovieIdRequest.videos.resource "550" .en_US)) ∧
      ¬∃ url, MovieIdRequest.videos.url "٥٥٠" .en_US = some url ∧
        url.Names (MovieIdRequest.videos.resource "٥٥٠" .en_US) := by
  have digits : "550".toList.all Char.isDigit = true := by decide +kernel
  have otherDigits : ¬"٥٥٠".toList.all Char.isDigit = true := by decide +kernel
  constructor
  · exact (movieRequest_names_iff (by decide +kernel) .en_US .videos).mpr
      (List.all_eq_true.mp digits)
  · exact mt (movieRequest_names_iff (by decide +kernel) .en_US .videos).mp
      (mt List.all_eq_true.mpr otherDigits)

/-- **The detail screen of a movie asks exactly if its id is not negative**, and each request
for a movie of any id is issued and names it. -/
theorem detail_asks_iff (id : Int) :
    ((MovieDetailSystem.initial (toString id)).controller.start.2 = true ↔ 0 ≤ id) ∧
      ∀ language (request : MovieIdRequest), ∃ url, request.url (toString id) language = some url ∧
        url.Names (request.resource (toString id) language) := by
  constructor
  · rw [← validateNumber_toString_iff, MovieDetailController.start]
    change (if Utils.validateNumber (some (toString id)) then _ else _ : _ × Bool).2 = true ↔ _
    split
    · next accepted => exact iff_of_true rfl accepted
    · next refused => exact iff_of_false Bool.false_ne_true refused
  · intro language request
    rw [movieURL_eq]
    exact Resource.names_of_plain (plain_movieResource
      (List.all_eq_true.mpr fun c member =>
        isComponentCharacter_of_isDigit (isDigit_or_of_mem_toString member)) language request)

end MovieFun
