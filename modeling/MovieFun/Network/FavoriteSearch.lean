import MovieFun.Foundation.Wildcard
import MovieFun.Network.FavoriteMovieService

/-!
# The search among favourites

Both stores are searched with `LIKE[c]` and the text of the user between two stars. A star or a
question mark in the text is a wildcard of the pattern as well. So a search returns exactly the
favourites whose title contains the text, whatever is stored, when the text has neither
(`searchesExactly_iff_plain`).
-/

namespace MovieFun

open Wildcard

/-- What ignoring case makes of a character. The two wildcards have no other case. -/
structure CaseFolding where
  fold : Char → Char
  star : ∀ c, fold c = fold '*' → c = '*'
  question : ∀ c, fold c = fold '?' → c = '?'

namespace CaseFolding

variable (folding : CaseFolding)

/-- The token of a character of a pattern. -/
def token (c : Char) : Token Char :=
  if c = '*' then .run else if c = '?' then .one fun _ => true else .same folding.fold c

/-- The operator `LIKE[c]`. -/
def like (title pattern : String) : Bool :=
  accepts (pattern.toList.map folding.token) title.toList

/-- The title contains the text, ignoring case. -/
def contains (title searchText : String) : Bool :=
  decide (searchText.toList.map folding.fold <:+: title.toList.map folding.fold)

end CaseFolding

/-- The text has no wildcard. -/
def Plain (searchText : String) : Prop :=
  ∀ c ∈ searchText.toList, c ≠ '*' ∧ c ≠ '?'

instance : DecidablePred Plain := fun searchText =>
  List.decidableBAll (fun c => c ≠ '*' ∧ c ≠ '?') searchText.toList

/-- A title that is found and does not contain the text. -/
def Misleads (folding : CaseFolding) (searchText title : String) : Prop :=
  folding.like title ("*" ++ searchText ++ "*") = true ∧ folding.contains title searchText = false

/-- The search of the local database hands over exactly the objects whose title contains the
text. -/
def SearchesRealm (folding : CaseFolding) (searchText : String) (objects : Realm) : Prop :=
  RealmService.searchFavoriteMovieCompletions folding.like searchText (some objects) =
    [some ((objects.filter fun movieModel =>
      folding.contains movieModel.title searchText).map RealmService.getMovie)]

/-- The search of the documents of the account hands over exactly the movies whose title
contains the text. -/
def SearchesDocuments (folding : CaseFolding) (share : AccountService) (searchText : String)
    (documents : List Dictionary) : Prop :=
  ∀ realm, FavoriteMovieService.searchFavoriteMovieCompletions share folding.like searchText
      (some documents) none realm =
    [some ((documents.map FavoriteMovieService.getMovie).filter fun movie =>
      movie.title.any fun title => folding.contains title searchText)]

section Like

variable {folding : CaseFolding} {searchText title : String}

/-- The pattern of a search accepts a title with the text somewhere in it, as a pattern. -/
theorem like_iff : folding.like title ("*" ++ searchText ++ "*") = true ↔
    accepts (.run :: (searchText.toList.map folding.token ++ [.run])) title.toList = true := by
  have star : folding.token '*' = .run := if_pos rfl
  rw [CaseFolding.like, String.toList_append, String.toList_append, List.map_append,
    List.map_append, show "*".toList = ['*'] from rfl, List.map_singleton, star]
  rfl

/-- A title contains a text exactly if the folded text is a part of the folded title. -/
theorem contains_iff : folding.contains title searchText = true ↔
    searchText.toList.map folding.fold <:+: title.toList.map folding.fold :=
  decide_eq_true_iff

/-- Without wildcards every character of a pattern stands for itself. -/
theorem map_token_of_plain (plain : Plain searchText) :
    searchText.toList.map folding.token = searchText.toList.map (Token.same folding.fold) := by
  apply List.map_congr_left
  intro c member
  obtain ⟨noStar, noQuestion⟩ := plain c member
  rw [CaseFolding.token, if_neg noStar, if_neg noQuestion]

/-- A wildcard stands for itself as well, so a text as a pattern accepts itself. -/
theorem accepts_map_token {text list : List Char}
    (same : list.map folding.fold = text.map folding.fold) :
    accepts (text.map folding.token) list = true := by
  induction text generalizing list with
  | nil => rw [List.map_eq_nil_iff.mp same, List.map_nil, accepts_nil_iff]
  | cons c text ih =>
      obtain ⟨a, rest, rfl, first, later⟩ := List.map_eq_cons_iff.mp same
      rw [List.map_cons, CaseFolding.token]
      split
      · exact accepts_run_cons_iff.mpr ⟨[a], rest, rfl, ih later⟩
      · split
        · exact accepts_one_cons_iff.mpr ⟨a, rest, rfl, rfl, ih later⟩
        · exact accepts_one_cons_iff.mpr ⟨a, rest, rfl, decide_eq_true first.symm, ih later⟩

/-- No title that contains the text is missed. -/
theorem like_of_contains (inside : folding.contains title searchText = true) :
    folding.like title ("*" ++ searchText ++ "*") = true := by
  have found := accepts_part_iff.mpr (contains_iff.mp inside)
  obtain ⟨middle, part, accepted⟩ := accepts_between_runs_iff.mp found
  exact like_iff.mpr (accepts_between_runs_iff.mpr
    ⟨middle, part, accepts_map_token (accepts_map_same_iff.mp accepted)⟩)

/-- A plain text finds only titles that contain it. -/
theorem contains_of_like (plain : Plain searchText)
    (found : folding.like title ("*" ++ searchText ++ "*") = true) :
    folding.contains title searchText = true := by
  rw [like_iff, map_token_of_plain plain] at found
  exact contains_iff.mpr (accepts_part_iff.mp found)

/-- A text with its wildcards filled in: nothing for a star, a letter for a question mark. -/
def filledIn (text : List Char) : List Char :=
  (text.filter (· ≠ '*')).map fun c => if c = '?' then 'a' else c

/-- A pattern accepts the text that it is filled in to. -/
theorem accepts_filledIn (text : List Char) :
    accepts (text.map folding.token) (filledIn text) = true := by
  induction text with
  | nil => rfl
  | cons c text ih =>
      by_cases isStar : c = '*'
      · subst isStar
        exact accepts_run_cons_iff.mpr ⟨[], filledIn text, rfl, ih⟩
      · have filled : filledIn (c :: text) = (if c = '?' then 'a' else c) :: filledIn text := by
          have kept : (c :: text).filter (· ≠ '*') = c :: text.filter (· ≠ '*') :=
            List.filter_cons_of_pos (decide_eq_true isStar)
          rw [filledIn, kept, List.map_cons, filledIn]
        rw [filled, List.map_cons, CaseFolding.token, if_neg isStar]
        split
        · exact accepts_one_cons_iff.mpr ⟨_, _, rfl, rfl, ih⟩
        · exact accepts_one_cons_iff.mpr ⟨_, _, rfl, decide_eq_true rfl, ih⟩

/-- A filled in text has no wildcard. -/
theorem no_wildcard_of_mem_filledIn {text : List Char} {c : Char} (member : c ∈ filledIn text) :
    c ≠ '*' ∧ c ≠ '?' := by
  obtain ⟨d, kept, rfl⟩ := List.mem_map.mp member
  have noStar : d ≠ '*' := of_decide_eq_true (List.mem_filter.mp kept).2
  split
  · exact ⟨by decide, by decide⟩
  · next noQuestion => exact ⟨noStar, noQuestion⟩

/-- A title without wildcards contains only plain texts. -/
theorem plain_of_contains (wildcards : ∀ c ∈ title.toList, c ≠ '*' ∧ c ≠ '?')
    (inside : folding.contains title searchText = true) : Plain searchText := by
  intro c member
  have folded : folding.fold c ∈ title.toList.map folding.fold :=
    (contains_iff.mp inside).subset (List.mem_map_of_mem member)
  obtain ⟨d, inTitle, same⟩ := List.mem_map.mp folded
  obtain ⟨noStar, noQuestion⟩ := wildcards d inTitle
  constructor
  · rintro rfl
    exact noStar (folding.star d same)
  · rintro rfl
    exact noQuestion (folding.question d same)

/-- Exactly the texts with a wildcard can mislead. -/
theorem exists_misleads_iff (folding : CaseFolding) (searchText : String) :
    (∃ title, Misleads folding searchText title) ↔ ¬ Plain searchText := by
  constructor
  · rintro ⟨title, found, absent⟩ plain
    rw [contains_of_like plain found] at absent
    cases absent
  · intro wildcard
    refine ⟨String.ofList (filledIn searchText.toList), ?_, ?_⟩
    · refine like_iff.mpr (accepts_between_runs_iff.mpr ⟨_, List.infix_rfl, ?_⟩)
      rw [String.toList_ofList]
      exact accepts_filledIn searchText.toList
    · rw [← Bool.not_eq_true]
      intro inside
      refine wildcard (plain_of_contains (fun c member => ?_) inside)
      rw [String.toList_ofList] at member
      exact no_wildcard_of_mem_filledIn member

end Like

section Stores

variable {folding : CaseFolding} {share : AccountService} {searchText : String}

/-- Where one filter lets through what the other does, they are the same exactly when it lets
through nothing more. -/
theorem filter_eq_filter_iff {α : Type*} {p q : α → Bool} {l : List α}
    (follows : ∀ a, q a = true → p a = true) :
    l.filter p = l.filter q ↔ ∀ a ∈ l, ¬ (p a = true ∧ q a = false) := by
  constructor
  · rintro same a member ⟨through, stopped⟩
    have kept : a ∈ l.filter q := same ▸ List.mem_filter.mpr ⟨member, through⟩
    rw [(List.mem_filter.mp kept).2] at stopped
    cases stopped
  · intro nothingMore
    apply List.filter_congr
    intro a member
    rw [Bool.eq_iff_iff]
    refine ⟨fun through => ?_, follows a⟩
    by_contra stopped
    exact nothingMore a member ⟨through, Bool.eq_false_of_not_eq_true stopped⟩

/-- Different objects are different movies. -/
theorem getMovie_injective : Function.Injective RealmService.getMovie := by
  intro first second same
  cases first
  cases second
  simp only [RealmService.getMovie, Movie.mk.injEq, Option.some.injEq] at same
  simp only [same]

/-- A search of the local database is exact when no title there misleads. -/
theorem searchesRealm_iff {objects : Realm} : SearchesRealm folding searchText objects ↔
    ∀ movieModel ∈ objects, ¬ Misleads folding searchText movieModel.title := by
  unfold SearchesRealm RealmService.searchFavoriteMovieCompletions
  rw [List.singleton_inj, Option.some.injEq, (List.map_injective_iff.mpr getMovie_injective).eq_iff]
  exact filter_eq_filter_iff fun movieModel => like_of_contains

/-- A search of the documents is exact when no title there misleads. -/
theorem searchesDocuments_iff (login : share.isLogin = true) {documents : List Dictionary} :
    SearchesDocuments folding share searchText documents ↔
      ∀ dictionary ∈ documents, ∀ title ∈ (FavoriteMovieService.getMovie dictionary).title,
        ¬ Misleads folding searchText title := by
  obtain ⟨accountId, session⟩ := AccountService.getAccountId_of_isLogin login
  unfold SearchesDocuments FavoriteMovieService.searchFavoriteMovieCompletions
  simp only [login, if_true, session, forall_const, List.singleton_inj, Option.some.injEq,
    FavoriteMovieService.searchedMovies]
  rw [filter_eq_filter_iff, List.forall_mem_map]
  · apply forall₂_congr
    intro dictionary _
    cases (FavoriteMovieService.getMovie dictionary).title with
    | none => exact iff_of_true (fun absurd => nomatch absurd.1) nofun
    | some title => exact ⟨fun holds other isTitle => Option.some.inj isTitle ▸ holds,
        fun holds => holds title rfl⟩
  · intro movie inside
    obtain ⟨title, isTitle, contained⟩ := (Option.any_eq_true _ _).mp inside
    exact (Option.any_eq_true _ _).mpr ⟨title, isTitle, like_of_contains contained⟩

end Stores

/-- **The search among favourites.** For every text, each store is searched exactly whatever is
stored if and only if the text has no wildcard. With a wildcard a search is exact when no title
stored misleads. -/
theorem searchesExactly_iff_plain (folding : CaseFolding) {share : AccountService}
    (login : share.isLogin = true) (searchText : String) :
    ((∀ objects, SearchesRealm folding searchText objects) ↔ Plain searchText) ∧
      ((∀ documents, SearchesDocuments folding share searchText documents) ↔ Plain searchText) ∧
      (∀ objects, SearchesRealm folding searchText objects ↔
        ∀ movieModel ∈ objects, ¬ Misleads folding searchText movieModel.title) ∧
      ∀ documents, SearchesDocuments folding share searchText documents ↔
        ∀ dictionary ∈ documents, ∀ title ∈ (FavoriteMovieService.getMovie dictionary).title,
          ¬ Misleads folding searchText title := by
  refine ⟨?_, ?_, fun objects => searchesRealm_iff, fun documents => searchesDocuments_iff login⟩
  · rw [← not_iff_not, ← exists_misleads_iff folding, not_forall]
    constructor
    · rintro ⟨objects, inexact⟩
      rw [searchesRealm_iff, not_forall₂] at inexact
      obtain ⟨movieModel, -, misleads⟩ := inexact
      exact ⟨movieModel.title, not_not.mp misleads⟩
    · rintro ⟨title, misleads⟩
      refine ⟨[{ title, releaseDate := ⟨0⟩ }], fun exact => ?_⟩
      exact searchesRealm_iff.mp exact _ List.mem_cons_self misleads
  · rw [← not_iff_not, ← exists_misleads_iff folding, not_forall]
    constructor
    · rintro ⟨documents, inexact⟩
      rw [searchesDocuments_iff login, not_forall₂] at inexact
      obtain ⟨dictionary, -, misleads⟩ := inexact
      obtain ⟨title, misleads⟩ := not_forall.mp misleads
      exact ⟨title, not_not.mp fun holds => misleads fun _ => holds⟩
    · rintro ⟨title, misleads⟩
      refine ⟨[[("title", .string title)]], fun exact => ?_⟩
      exact (searchesDocuments_iff login).mp exact _ List.mem_cons_self title rfl misleads

/-- A character before the capital letters is the lower case of itself only. -/
theorem eq_of_toLower_eq {c d : Char} (before : d < 'A') (same : c.toLower = d.toLower) :
    c = d := by
  have kept : d.toLower = d := dif_neg fun upper => absurd before (not_lt.mpr upper.1)
  rw [kept, Char.toLower] at same
  split at same
  · next upper =>
    have value := congrArg (fun c => c.val.toNat) same
    have first : 65 ≤ c.val.toNat := upper.1
    have last : c.val.toNat ≤ 90 := upper.2
    have small : d.val.toNat < 65 := before
    have shifted : (c.val + ('a'.val - 'A'.val)).toNat = (c.val.toNat + 32) % 2 ^ 32 :=
      UInt32.toNat_add _ _
    dsimp only at value
    omega
  · exact same

/-- Ignoring the case of the letters of English. -/
def CaseFolding.ascii : CaseFolding where
  fold := Char.toLower
  star _ := eq_of_toLower_eq (by decide)
  question _ := eq_of_toLower_eq (by decide)

/-- A text without wildcards is searched for exactly in both stores. -/
theorem searchesExactly_king :
    (∀ objects, SearchesRealm .ascii "king" objects) ∧
      ∀ documents, SearchesDocuments .ascii ⟨some (.initial ⟨0⟩), none⟩ "king" documents := by
  obtain ⟨inRealm, inDocuments, -⟩ := searchesExactly_iff_plain .ascii
    (rfl : AccountService.isLogin ⟨some (.initial ⟨0⟩), none⟩ = true) "king"
  have plain : Plain "king" := by decide
  exact ⟨inRealm.mpr plain, inDocuments.mpr plain⟩

/-- The question mark of "Who?" finds a title without one. -/
theorem not_searches_who :
    ¬ SearchesRealm .ascii "Who?" [{ title := "Whose Streets", releaseDate := ⟨0⟩ }] ∧
      ¬ SearchesDocuments .ascii ⟨some (.initial ⟨0⟩), none⟩ "Who?"
        [[("title", .string "Whose Streets")]] := by
  have misleads : Misleads .ascii "Who?" "Whose Streets" := by
    refine ⟨?_, ?_⟩ <;> decide +kernel
  constructor
  · intro exact
    exact searchesRealm_iff.mp exact _ List.mem_cons_self misleads
  · intro exact
    exact (searchesDocuments_iff rfl).mp exact _ List.mem_cons_self _ rfl misleads

end MovieFun
