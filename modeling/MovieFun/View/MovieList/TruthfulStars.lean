import MovieFun.View.MovieList.StarSystem

/-!
# Stars that tell the truth

A star is taken from the membership at an instant in the past: at the read of the
check that set it, or at the effect of the write that its acknowledgement set it from
(`Stars`). Once nothing is under way it tells the truth exactly when the store has
the same membership as then (`truthful_iff_fresh`).
-/

namespace MovieFun

namespace StarSystem

open ListController ListRowViewModel

/-- The movies for which rows were made. -/
def made (before : List StarEvent) : List Movie := before.flatMap StarEvent.movies

/-- The row is one that was made. -/
def IsMade (before : List StarEvent) (rowVM : ListRowViewModel) : Prop :=
  (made before)[rowVM.number]? = some rowVM.movie

/-- The rows that are shown, checked or selected were made, and a selection knows the
id of its movie. -/
structure Rows (before : List StarEvent) (system : StarSystem) : Prop where
  created : system.list.screen.created = (made before).length
  shown : ∀ rowVM ∈ system.rowVMs, IsMade before rowVM
  checked : ∀ check ∈ system.list.checks, ∀ rowVM ∈ check.rowVMs, IsMade before rowVM
  selected : ∀ selection ∈ system.writes ++ system.effects,
    IsMade before selection.rowVM ∧ selection.rowVM.movie.id = some selection.movieId

/-- One check is under way at most, and its block is the only one that did not run. -/
structure Serial (earlier : List FavoriteEvent) (system : StarSystem) : Prop where
  balanced : (system.favorites.callGroup earlier).Balanced
  counted : system.favorites.calls.length =
    (earlier.filterMap FavoriteEvent.notified).length + system.list.checks.length
  alone : system.list.checks.length ≤ 1

variable {account : Account} {userLogin : Option String} {stores : FavoriteStores}
  {before : List StarEvent} {event : StarEvent} {system next : StarSystem}
  {rowVM other : ListRowViewModel}

theorem made_concat : made (before ++ [event]) = made before ++ event.movies := by
  rw [made, List.flatMap_append, List.flatMap_singleton, made]

theorem IsMade.concat (isMade : IsMade before rowVM) (event : StarEvent) :
    IsMade (before ++ [event]) rowVM := by
  rw [IsMade, made_concat]
  exact List.getElem?_append_left (List.getElem?_eq_some_iff.mp isMade).1 ▸ isMade

/-- The rows of a page are made by its event. -/
theorem isMade_newRows (inside : rowVM ∈ newRows (made before).length event.movies) :
    IsMade (before ++ [event]) rowVM := by
  obtain ⟨⟨movie, number⟩, member, rfl⟩ := List.mem_map.mp inside
  obtain ⟨later, isMovie⟩ := List.mk_mem_zipIdx_iff_le_and_getElem?_sub.mp member
  rw [IsMade, made_concat]
  change (made before ++ event.movies)[number]? = some movie
  rw [List.getElem?_append_right later, isMovie]

/-- A row that was made is known by its number. -/
theorem IsMade.eq_of_number (isMade : IsMade before rowVM) (otherMade : IsMade before other)
    (same : other.number = rowVM.number) : other = rowVM := by
  have movies : some other.movie = some rowVM.movie := by
    rw [← isMade, ← otherMade, same]
  cases rowVM
  cases other
  cases same
  cases movies
  rfl

/-- An event that makes no rows only selects some that are shown. -/
theorem Rows.of_frame (rows : Rows before system) (silent : event.movies = [])
    (created : next.list.screen.created = system.list.screen.created)
    (shown : next.rowVMs = system.rowVMs) (checks : next.list.checks ⊆ system.list.checks)
    (selected : ∀ selection ∈ next.writes ++ next.effects,
      selection ∈ system.writes ++ system.effects ∨
        (selection.rowVM ∈ system.rowVMs ∧
          selection.rowVM.movie.id = some selection.movieId)) :
    Rows (before ++ [event]) next where
  created := by rw [created, rows.created, made_concat, silent, List.append_nil]
  shown rowVM member := (rows.shown rowVM (shown ▸ member)).concat event
  checked check member rowVM inside :=
    (rows.checked check (checks member) rowVM inside).concat event
  selected selection member := by
    rcases selected selection member with older | ⟨isShown, named⟩
    · exact ⟨(rows.selected selection older).1.concat event, (rows.selected selection older).2⟩
    · exact ⟨(rows.shown _ isShown).concat event, named⟩

/-- Each step keeps the rows to what was made. -/
theorem Rows.of_step (rows : Rows before system)
    (taken : step account userLogin system event = some next) : Rows (before ++ [event]) next := by
  cases event with
  | list event =>
      obtain ⟨created, shown, checked, selected⟩ := rows
      have later : ∀ {rowVM}, IsMade before rowVM → IsMade (before ++ [.list event]) rowVM :=
        fun isMade => isMade.concat _
      obtain ⟨own, list, isList, started⟩ := step_list_eq_some taken
      obtain ⟨-, count, onDisplay, checks⟩ := ListSystem.rows_of_step isList own
      have inside : ∀ rowVM ∈ getRowVMFromListViewModel list.screen,
          IsMade (before ++ [.list event]) rowVM := by
        intro rowVM member
        rcases onDisplay rowVM member with older | isNew
        · exact later (shown rowVM older)
        · rw [created] at isNew
          exact isMade_newRows isNew
      have captured : ∀ check ∈ list.checks, ∀ rowVM ∈ check.rowVMs,
          IsMade (before ++ [.list event]) rowVM := by
        intro check member
        rcases checks with ⟨-, same, -⟩ | ⟨-, operation, more⟩
        · rw [same] at member
          exact fun rowVM inChecked => later (checked check member rowVM inChecked)
        · rw [more] at member
          rcases List.mem_append.mp member with older | isNew
          · exact fun rowVM inChecked => later (checked check older rowVM inChecked)
          · cases List.mem_singleton.mp isNew
            exact inside
      have counted : list.screen.created = (made (before ++ [.list event])).length := by
        rw [count, created, made_concat, List.length_append]
        rfl
      rcases started with ⟨-, rfl⟩ | ⟨-, -, rfl⟩
      · exact ⟨counted, inside, captured, fun selection member =>
          ⟨later (selected selection member).1, (selected selection member).2⟩⟩
      · exact ⟨counted, inside, captured, fun selection member =>
          ⟨later (selected selection member).1, (selected selection member).2⟩⟩
  | getDocument movieId =>
      obtain ⟨-, rfl⟩ := step_getDocument_eq_some taken
      exact rows.of_frame rfl rfl rfl (List.Subset.refl _) fun _ member => .inl member
  | getDocumentReply call movieId =>
      obtain ⟨data, favorites, -, -, rfl⟩ := step_reply_eq_some taken
      exact rows.of_frame rfl rfl rfl (List.Subset.refl _) fun _ member => .inl member
  | notify call check =>
      obtain ⟨-, favorites, -, rfl⟩ := step_notify_eq_some taken
      refine rows.of_frame rfl ?_ ?_ List.erase_subset fun _ member => .inl member
      · exact created_checkCompletion check _ none system.list.screen
      · simp only [rowVMs, getRowVMFromListViewModel]
        have pages := pagesShown_checkCompletion check (some system.favorites.service.isFavorites)
          none system.list.screen
        rw [(Prod.mk.inj pages).1]
  | selectFavoriteMovie now rowVM =>
      obtain ⟨isShown, selection, isMade, rfl⟩ := step_select_eq_some taken
      refine rows.of_frame rfl rfl rfl (List.Subset.refl _) fun made member => ?_
      change made ∈ (system.writes ++ selection.toList) ++ system.effects at member
      simp only [List.mem_append, Option.mem_toList] at member ⊢
      rcases member with (older | isNew) | inEffect
      · exact .inl (.inl older)
      · obtain ⟨same, named⟩ := isMade made isNew
        rw [same]
        exact .inr ⟨isShown, named⟩
      · exact .inl (.inr inEffect)
  | takeEffect selection =>
      obtain ⟨waits, stores, -, rfl⟩ := step_takeEffect_eq_some taken
      refine rows.of_frame rfl rfl rfl (List.Subset.refl _) fun made member => .inl ?_
      change made ∈ system.writes.erase selection ++ (system.effects ++ [selection]) at member
      simp only [List.mem_append, List.mem_singleton] at member ⊢
      rcases member with older | inEffect | rfl
      · exact .inl (List.mem_of_mem_erase older)
      · exact .inr inEffect
      · exact .inl waits
  | acknowledge selection =>
      obtain ⟨-, rfl⟩ := step_acknowledge_eq_some taken
      obtain ⟨listViewModel, created⟩ := selection.completion_frame system.list.screen
      refine rows.of_frame rfl created ?_ (List.Subset.refl _) fun made member => .inl ?_
      · simp only [rowVMs, getRowVMFromListViewModel, listViewModel]
      · exact (List.Sublist.append_left List.erase_sublist _).subset member

/-! ## One check at a time -/

/-- Each step keeps one check at a time. -/
theorem Serial.of_step {earlier : List FavoriteEvent} (serial : Serial earlier system)
    (taken : step account userLogin system event = some next) :
    ∃ later, Serial later next := by
  cases event with
  | list event =>
      obtain ⟨own, list, isList, started⟩ := step_list_eq_some taken
      obtain ⟨-, -, -, checks⟩ := ListSystem.rows_of_step isList own
      rcases started with ⟨silent, rfl⟩ | ⟨starts, none, rfl⟩
      · rcases checks with ⟨-, same, -⟩ | ⟨starts, -⟩
        · exact ⟨earlier, serial.balanced, by rw [same]; exact serial.counted,
            by rw [same]; exact serial.alone⟩
        · exact absurd (silent.symm.trans starts) Bool.false_ne_true
      · rcases checks with ⟨silent, -⟩ | ⟨-, operation, more⟩
        · exact absurd (silent.symm.trans starts) Bool.false_ne_true
        · have asked := @step_check account userLogin system.favorites system.stores.realm
            (getMovieIdsFromListViewModel list.screen)
          refine ⟨_, FavoriteSystem.movesLike_callGroup.balanced_of_step serial.balanced asked,
            ?_, ?_⟩
          · have counted := serial.counted
            rw [none, List.length_nil, Nat.add_zero] at counted
            rw [more, none, FavoriteSystem.asked, EventRun.filterMap_concat_none rfl]
            simp only [List.length_append, counted]
            rfl
          · rw [more, none]
            exact Nat.le_refl _
  | getDocument movieId =>
      obtain ⟨-, rfl⟩ := step_getDocument_eq_some taken
      exact ⟨earlier, serial.balanced, serial.counted, serial.alone⟩
  | getDocumentReply call movieId =>
      obtain ⟨data, favorites, -, replied, rfl⟩ := step_reply_eq_some taken
      refine ⟨_, FavoriteSystem.movesLike_callGroup.balanced_of_step serial.balanced replied, ?_,
        serial.alone⟩
      obtain ⟨-, dispatchGroup, submitted, -, rfl⟩ := FavoriteSystem.step_reply_eq_some replied
      rw [EventRun.filterMap_concat_none rfl]
      exact serial.counted
  | notify call check =>
      obtain ⟨inside, favorites, notified, rfl⟩ := step_notify_eq_some taken
      refine ⟨_, FavoriteSystem.movesLike_callGroup.balanced_of_step serial.balanced notified, ?_,
        List.erase_sublist.length_le.trans serial.alone⟩
      obtain ⟨-, rfl⟩ := FavoriteSystem.step_notify_eq_some notified
      have fewer := List.length_erase_add_one inside
      have counted := serial.counted
      rw [List.filterMap_append, List.length_append]
      change system.favorites.calls.length = _ + 1 + (system.list.checks.erase check).length
      omega
  | selectFavoriteMovie now rowVM =>
      obtain ⟨-, selection, -, rfl⟩ := step_select_eq_some taken
      exact ⟨earlier, serial.balanced, serial.counted, serial.alone⟩
  | takeEffect selection =>
      obtain ⟨-, stores, -, rfl⟩ := step_takeEffect_eq_some taken
      exact ⟨earlier, serial.balanced, serial.counted, serial.alone⟩
  | acknowledge selection =>
      obtain ⟨-, rfl⟩ := step_acknowledge_eq_some taken
      exact ⟨earlier, serial.balanced, serial.counted, serial.alone⟩

/-- When a block runs, every request was answered. -/
theorem Serial.requests_eq_nil {earlier : List FavoriteEvent} (serial : Serial earlier system)
    {call : Nat} (submitted : call ∈ system.favorites.mainQueue) :
    system.favorites.requests = [] := by
  obtain ⟨balanced, counted, alone⟩ := serial
  have blocks := balanced.once.length_eq
  simp only [CallGroup.blocks, List.length_append, List.length_range] at blocks
  change system.favorites.service.dispatchGroup.waiting.length +
    system.favorites.mainQueue.length + (earlier.filterMap FavoriteEvent.notified).length =
      system.favorites.calls.length at blocks
  have queued := List.length_pos_of_mem submitted
  have noneWaits : system.favorites.service.dispatchGroup.waiting = [] :=
    List.eq_nil_of_length_eq_zero (by omega)
  apply List.eq_nil_iff_forall_not_mem.mpr
  intro request member
  have waits : request.1 ∈ system.favorites.service.dispatchGroup.waiting :=
    balanced.waiting _ (List.mem_map_of_mem member)
  rw [noneWaits] at waits
  exact List.not_mem_nil waits

/-! ## What the store answered -/

section Answers

variable (account stores)

/-- The membership of a movie after the writes that took effect. -/
def memberAfter (movieId : Int) (events : List StarEvent) : Bool :=
  (EventRun.last (StarEvent.changes movieId) events).getD (isMember account stores movieId)

/-- The store has the membership that the writes left, what is read of it was so at
the read, and a check that has no request left for an id has it in its dictionary. -/
structure Answers (before : List StarEvent) (system : StarSystem) : Prop where
  membership : ∀ movieId,
    isMember account system.stores movieId = memberAfter account stores movieId before
  reads : ∀ movieId data, system.reads movieId = some data →
    data.isSome =
      memberAfter account stores movieId (EventRun.upTo (StarEvent.isRead movieId) before)
  answered : ∀ check ∈ system.list.checks, ∀ rowVM ∈ check.rowVMs,
    ∀ movieId ∈ rowVM.movie.id, (∃ call, (call, movieId) ∈ system.favorites.requests) ∨
      system.favorites.service.isFavorites.lookup movieId =
        some (some (memberAfter account stores movieId
          (EventRun.upTo (StarEvent.isRead movieId) before)))
  effects : ∀ selection ∈ system.effects,
    memberAfter account stores selection.movieId
      (EventRun.upTo (StarEvent.isEffect selection) before) = !selection.isFavoriteMovie

end Answers

theorem memberAfter_concat (movieId : Int) :
    memberAfter account stores movieId (before ++ [event]) =
      (event.changes movieId).getD (memberAfter account stores movieId before) := by
  rw [memberAfter, EventRun.last_concat]
  cases event.changes movieId <;> rfl

/-- The write of a tap leaves the opposite of what the tap captured, and nothing else
changes. -/
theorem isMember_of_takeEffect {selection : Selection} {left : FavoriteStores}
    (named : selection.rowVM.movie.id = some selection.movieId)
    (written : system.stores.step (share account userLogin) selection.call = some left)
    (movieId : Int) :
    isMember account left movieId = (StarEvent.changes movieId (.takeEffect selection)).getD
      (isMember account system.stores movieId) := by
  have sameDocument : FavoriteMovieService.documentID movieId =
      FavoriteMovieService.documentID selection.movieId ↔ selection.movieId = movieId :=
    FavoriteMovieService.documentID_injective.eq_iff.trans eq_comm
  simp only [StarEvent.changes, isMember]
  unfold Selection.call at written
  cases captured : selection.isFavoriteMovie with
  | true =>
      rw [captured, if_pos rfl] at written
      rcases step_removeFavoriteMovie_eq_some written with
        ⟨-, accountId, session, rfl⟩ | ⟨signedOut, -⟩
      · cases session
        rw [FavoriteStores.data_delete]
        simp only [sameDocument]
        split <;> rfl
      · cases signedOut
  | false =>
      rw [captured, if_neg Bool.false_ne_true] at written
      obtain ⟨_, isNamed, ⟨-, accountId, dictionary, session, -, rfl⟩ | ⟨signedOut, -⟩⟩ :=
        step_addFavoriteMovie_eq_some written
      · cases session
        rw [named] at isNamed
        cases isNamed
        rw [FavoriteStores.data_setData]
        simp only [sameDocument]
        split <;> rfl
      · cases signedOut

/-- An event that is no read and no write leaves what was read and written. -/
theorem Answers.of_frame (answers : Answers account stores before system)
    (noRead : ∀ movieId, event.isRead movieId = false)
    (noEffect : ∀ selection, event.isEffect selection = false)
    (noChange : ∀ movieId, event.changes movieId = none)
    (sameStores : next.stores = system.stores) (effects : next.effects ⊆ system.effects)
    (reads : ∀ movieId data, next.reads movieId = some data → system.reads movieId = some data)
    (answered : ∀ check ∈ next.list.checks, ∀ rowVM ∈ check.rowVMs,
      ∀ movieId ∈ rowVM.movie.id, (∃ call, (call, movieId) ∈ next.favorites.requests) ∨
        next.favorites.service.isFavorites.lookup movieId =
          some (some (memberAfter account stores movieId
            (EventRun.upTo (StarEvent.isRead movieId) before)))) :
    Answers account stores (before ++ [event]) next where
  membership movieId := by
    rw [sameStores, memberAfter_concat, noChange]
    exact answers.membership movieId
  reads movieId data isRead := by
    rw [EventRun.upTo_concat, if_neg (by rw [noRead]; exact Bool.false_ne_true)]
    exact answers.reads movieId data (reads movieId data isRead)
  answered check member rowVM inside movieId named := by
    rw [EventRun.upTo_concat, if_neg (by rw [noRead]; exact Bool.false_ne_true)]
    exact answered check member rowVM inside movieId named
  effects selection member := by
    rw [EventRun.upTo_concat, if_neg (by rw [noEffect]; exact Bool.false_ne_true)]
    exact answers.effects selection (effects member)

/-- A read reads the membership of that moment. -/
theorem Answers.read (answers : Answers account stores before system) {movieId : Int}
    (asked : ∃ call, (call, movieId) ∈ system.favorites.requests) :
    Answers account stores (before ++ [.getDocument movieId])
      { system with
        reads := Function.update system.reads movieId
          (some (system.stores.data account.accountId
            (FavoriteMovieService.documentID movieId))) } where
  membership other := by
    rw [memberAfter_concat]
    exact answers.membership other
  reads other data isRead := by
    rw [EventRun.upTo_concat]
    change Function.update system.reads movieId _ other = some data at isRead
    by_cases same : movieId = other
    · subst same
      rw [Function.update_self] at isRead
      cases isRead
      rw [if_pos (by exact decide_eq_true rfl), memberAfter_concat]
      exact answers.membership movieId
    · rw [Function.update_of_ne (Ne.symm same)] at isRead
      rw [if_neg (by rw [StarEvent.isRead, decide_eq_true_iff]; exact same)]
      exact answers.reads other data isRead
  answered check member rowVM inside other named := by
    rw [EventRun.upTo_concat]
    by_cases same : movieId = other
    · exact .inl (same ▸ asked)
    · rw [if_neg (by rw [StarEvent.isRead, decide_eq_true_iff]; exact same)]
      exact answers.answered check member rowVM inside other named
  effects selection member := by
    rw [EventRun.upTo_concat, if_neg (by exact Bool.false_ne_true)]
    exact answers.effects selection member

/-- A write that takes effect leaves what it acknowledges. -/
theorem Answers.takeEffect (answers : Answers account stores before system)
    {selection : Selection} (named : selection.rowVM.movie.id = some selection.movieId)
    {left : FavoriteStores}
    (written : system.stores.step (share account userLogin) selection.call = some left) :
    Answers account stores (before ++ [.takeEffect selection])
      { system with
        stores := left
        writes := system.writes.erase selection
        effects := system.effects ++ [selection] } where
  membership movieId := by
    rw [memberAfter_concat, ← answers.membership movieId]
    exact isMember_of_takeEffect named written movieId
  reads movieId data isRead := by
    rw [EventRun.upTo_concat, if_neg (by exact Bool.false_ne_true)]
    exact answers.reads movieId data isRead
  answered check member rowVM inside movieId isNamed := by
    rw [EventRun.upTo_concat, if_neg (by exact Bool.false_ne_true)]
    exact answers.answered check member rowVM inside movieId isNamed
  effects other member := by
    rw [EventRun.upTo_concat]
    by_cases same : selection = other
    · rw [if_pos (by exact decide_eq_true same), memberAfter_concat, StarEvent.changes,
        if_pos (by rw [same]), same]
      rfl
    · rw [if_neg (by rw [StarEvent.isEffect, decide_eq_true_iff]; exact same)]
      rcases List.mem_append.mp member with older | isNew
      · exact answers.effects other older
      · exact absurd (List.mem_singleton.mp isNew).symm same

/-- Each step keeps the answers to what was read. -/
theorem Answers.of_step (answers : Answers account stores before system)
    (rows : Rows before system) (taken : step account userLogin system event = some next) :
    Answers account stores (before ++ [event]) next := by
  cases event with
  | list event =>
      obtain ⟨own, list, isList, started⟩ := step_list_eq_some taken
      obtain ⟨-, -, -, checks⟩ := ListSystem.rows_of_step isList own
      rcases started with ⟨silent, rfl⟩ | ⟨starts, none, rfl⟩
      · rcases checks with ⟨-, same, -⟩ | ⟨starts, -⟩
        · exact answers.of_frame (fun _ => rfl) (fun _ => rfl) (fun _ => rfl) rfl
            (List.Subset.refl _) (fun _ _ isRead => isRead)
            fun check member => answers.answered check (same ▸ member)
        · exact absurd (silent.symm.trans starts) Bool.false_ne_true
      · rcases checks with ⟨silent, -⟩ | ⟨-, operation, more⟩
        · exact absurd (silent.symm.trans starts) Bool.false_ne_true
        · refine answers.of_frame (fun _ => rfl) (fun _ => rfl) (fun _ => rfl) rfl
            (List.Subset.refl _) (fun _ _ isRead => isRead) ?_
          intro check member rowVM inside movieId named
          rw [more, none, List.nil_append, List.mem_singleton] at member
          subst member
          refine .inl ⟨system.favorites.calls.length, List.mem_append_right _ ?_⟩
          exact List.mem_map_of_mem (List.mem_filterMap.mpr ⟨rowVM, inside, named⟩)
  | getDocument movieId =>
      obtain ⟨asked, rfl⟩ := step_getDocument_eq_some taken
      exact answers.read asked
  | getDocumentReply call movieId =>
      obtain ⟨data, favorites, isRead, replied, rfl⟩ := step_reply_eq_some taken
      obtain ⟨-, dispatchGroup, submitted, -, rfl⟩ := FavoriteSystem.step_reply_eq_some replied
      refine answers.of_frame (fun _ => rfl) (fun _ => rfl) (fun _ => rfl) rfl
        (List.Subset.refl _) ?_ ?_
      · intro other data isOther
        change Function.update system.reads movieId none other = some data at isOther
        by_cases same : other = movieId
        · rw [same, Function.update_self] at isOther
          cases isOther
        · rwa [Function.update_of_ne same] at isOther
      · intro check member rowVM inside other named
        change _ ∨ (system.favorites.service.isFavorites.insert movieId _).lookup other = _
        by_cases same : other = movieId
        · subst same
          rw [AList.lookup_insert, ← answers.reads other data isRead]
          exact .inr rfl
        · rw [AList.lookup_insert_ne same]
          rcases answers.answered check member rowVM inside other named with
            ⟨caller, asked⟩ | entry
          · refine .inl ⟨caller, (List.mem_erase_of_ne fun isIt => ?_).mpr asked⟩
            exact same (Prod.mk.inj isIt).2
          · exact .inr entry
  | notify call check =>
      obtain ⟨-, favorites, notified, rfl⟩ := step_notify_eq_some taken
      obtain ⟨-, rfl⟩ := FavoriteSystem.step_notify_eq_some notified
      exact answers.of_frame (fun _ => rfl) (fun _ => rfl) (fun _ => rfl) rfl
        (List.Subset.refl _) (fun _ _ isRead => isRead)
        fun other member => answers.answered other (List.mem_of_mem_erase member)
  | selectFavoriteMovie now rowVM =>
      obtain ⟨-, selection, -, rfl⟩ := step_select_eq_some taken
      exact answers.of_frame (fun _ => rfl) (fun _ => rfl) (fun _ => rfl) rfl
        (List.Subset.refl _) (fun _ _ isRead => isRead) answers.answered
  | takeEffect selection =>
      obtain ⟨waits, left, written, rfl⟩ := step_takeEffect_eq_some taken
      exact answers.takeEffect (rows.selected selection (List.mem_append_left _ waits)).2 written
  | acknowledge selection =>
      obtain ⟨-, rfl⟩ := step_acknowledge_eq_some taken
      exact answers.of_frame (fun _ => rfl) (fun _ => rfl) (fun _ => rfl) rfl
        List.erase_subset (fun _ _ isRead => isRead) answers.answered

/-! ## What the stars are taken from -/

section Stars

variable (account stores)

/-- A star that was set shows the membership that its source left, and each row that
is shown was set or is being checked. -/
structure Stars (before : List StarEvent) (system : StarSystem) : Prop where
  sourced : ∀ rowVM movieId source, rowVM.movie.id = some movieId →
    source ∈ EventRun.lastAt (StarEvent.source rowVM movieId) before →
      IsMade before rowVM ∧ system.list.screen.isFavoriteMovie rowVM.number =
        some (memberAfter account stores movieId source)
  covered : ∀ rowVM ∈ system.rowVMs, (∃ check ∈ system.list.checks, rowVM ∈ check.rowVMs) ∨
    ∀ movieId, (EventRun.lastAt (StarEvent.source rowVM movieId) before).isSome

end Stars

/-- An event that sets no star. -/
theorem Stars.of_frame (stars : Stars account stores before system)
    (silent : ∀ rowVM movieId, StarEvent.source rowVM movieId before event = none)
    (same : next.list.screen.isFavoriteMovie = system.list.screen.isFavoriteMovie)
    (covered : ∀ rowVM ∈ next.rowVMs, (∃ check ∈ next.list.checks, rowVM ∈ check.rowVMs) ∨
      (rowVM ∈ system.rowVMs ∧ system.list.checks = next.list.checks)) :
    Stars account stores (before ++ [event]) next where
  sourced rowVM movieId source named isSource := by
    rw [EventRun.lastAt_concat, silent, Option.none_or] at isSource
    rw [same]
    obtain ⟨isMade, star⟩ := stars.sourced rowVM movieId source named isSource
    exact ⟨isMade.concat event, star⟩
  covered rowVM shown := by
    rcases covered rowVM shown with checked | ⟨older, checks⟩
    · exact .inl checked
    · rcases stars.covered rowVM older with checked | isSet
      · exact .inl (checks ▸ checked)
      · apply Or.inr
        intro movieId
        rw [EventRun.lastAt_concat, silent, Option.none_or]
        exact isSet movieId

/-- The block of a check sets the stars of its rows to what was read for them. -/
theorem Stars.notify (stars : Stars account stores before system) (rows : Rows before system)
    (answers : Answers account stores before system) {check : ListCheck}
    (alone : system.list.checks.length ≤ 1) (inside : check ∈ system.list.checks)
    (answered : system.favorites.requests = []) {call : Nat} {favorites : FavoriteSystem} :
    Stars account stores (before ++ [.notify call check])
      { system with
        list := { system.list with
          screen := checkCompletion check (some system.favorites.service.isFavorites) none
            system.list.screen
          checks := system.list.checks.erase check }
        favorites } := by
  have pages := pagesShown_checkCompletion check (some system.favorites.service.isFavorites)
    none system.list.screen
  have only : ∀ other ∈ system.list.checks, other = check := by
    intro other member
    obtain ⟨first, single⟩ := List.length_eq_one_iff.mp
      (Nat.le_antisymm alone (List.length_pos_of_mem inside))
    rw [single, List.mem_singleton] at member inside
    rw [member, inside]
  constructor
  · intro rowVM movieId source named isSource
    change _ ∧ (checkCompletion check _ none system.list.screen).isFavoriteMovie _ = _
    rw [isFavoriteMovie_checkCompletion]
    rw [EventRun.lastAt_concat, StarEvent.source] at isSource
    by_cases isChecked : rowVM ∈ check.rowVMs
    · rw [if_pos isChecked, Option.some_or] at isSource
      cases isSource
      have isMade := rows.checked check inside rowVM isChecked
      refine ⟨isMade.concat _, ?_⟩
      rw [setFavorites_of_mem isChecked fun other member =>
        isMade.eq_of_number (rows.checked check inside other member)]
      rcases answers.answered check inside rowVM isChecked movieId named with ⟨_, asked⟩ | entry
      · rw [answered] at asked
        exact absurd asked List.not_mem_nil
      · simp only [isFavorite, named, entry, Option.getD_some]
    · rw [if_neg isChecked, Option.none_or] at isSource
      obtain ⟨isMade, star⟩ := stars.sourced rowVM movieId source named isSource
      refine ⟨isMade.concat _, ?_⟩
      rw [setFavorites_of_ne fun other member same => isChecked ?_]
      · exact star
      · rwa [← isMade.eq_of_number (rows.checked check inside other member) same]
  · intro rowVM shown
    have older : rowVM ∈ system.rowVMs := by
      simp only [rowVMs, getRowVMFromListViewModel] at shown ⊢
      rwa [(Prod.mk.inj pages).1] at shown
    apply Or.inr
    intro movieId
    rw [EventRun.lastAt_concat, StarEvent.source]
    rcases stars.covered rowVM older with ⟨other, member, isChecked⟩ | isSet
    · rw [only other member] at isChecked
      rw [if_pos isChecked, Option.some_or]
      rfl
    · rw [Option.isSome_or, isSet movieId, Bool.or_true]

/-- An acknowledgement sets the star of its row to what its write left. -/
theorem Stars.acknowledge (stars : Stars account stores before system)
    (rows : Rows before system) (answers : Answers account stores before system)
    {selection : Selection} (waits : selection ∈ system.effects) :
    Stars account stores (before ++ [.acknowledge selection])
      { system with
        list := { system.list with screen := selection.completion system.list.screen }
        effects := system.effects.erase selection } := by
  obtain ⟨selectedMade, selectedNamed⟩ :=
    rows.selected selection (List.mem_append_right _ waits)
  constructor
  · intro rowVM movieId source named isSource
    change _ ∧ (selection.completion system.list.screen).isFavoriteMovie _ = _
    rw [selection.isFavoriteMovie_completion]
    rw [EventRun.lastAt_concat, StarEvent.source] at isSource
    by_cases same : selection.rowVM = rowVM
    · subst same
      rw [if_pos rfl, Option.some_or] at isSource
      cases isSource
      rw [selectedNamed] at named
      cases named
      rw [Function.update_self, answers.effects selection waits]
      exact ⟨selectedMade.concat _, rfl⟩
    · rw [if_neg same, Option.none_or] at isSource
      obtain ⟨isMade, star⟩ := stars.sourced rowVM movieId source named isSource
      refine ⟨isMade.concat _, ?_⟩
      rw [Function.update_of_ne fun isIt => same (isMade.eq_of_number selectedMade isIt.symm)]
      exact star
  · intro rowVM shown
    have older : rowVM ∈ system.rowVMs := by
      simp only [rowVMs, getRowVMFromListViewModel] at shown ⊢
      rwa [(selection.completion_frame system.list.screen).1] at shown
    rcases stars.covered rowVM older with checked | isSet
    · exact .inl checked
    · apply Or.inr
      intro movieId
      rw [EventRun.lastAt_concat, Option.isSome_or, isSet movieId, Bool.or_true]

/-- Each step keeps the stars to their sources. -/
theorem Stars.of_step (stars : Stars account stores before system) (rows : Rows before system)
    (answers : Answers account stores before system) {earlier : List FavoriteEvent}
    (serial : Serial earlier system)
    (taken : step account userLogin system event = some next) :
    Stars account stores (before ++ [event]) next := by
  cases event with
  | list event =>
      obtain ⟨own, list, isList, started⟩ := step_list_eq_some taken
      obtain ⟨same, -, -, checks⟩ := ListSystem.rows_of_step isList own
      have covered : ∀ rowVM ∈ getRowVMFromListViewModel list.screen,
          (∃ check ∈ list.checks, rowVM ∈ check.rowVMs) ∨
            (rowVM ∈ system.rowVMs ∧ system.list.checks = list.checks) := by
        intro rowVM shown
        rcases checks with ⟨-, sameChecks, sameRows⟩ | ⟨-, operation, more⟩
        · rw [sameRows] at shown
          exact .inr ⟨shown, sameChecks.symm⟩
        · rw [more]
          exact .inl ⟨_, List.mem_append_right _ List.mem_cons_self, shown⟩
      rcases started with ⟨-, rfl⟩ | ⟨-, -, rfl⟩
      · exact stars.of_frame (fun _ _ => rfl) same covered
      · exact stars.of_frame (fun _ _ => rfl) same covered
  | getDocument movieId =>
      obtain ⟨-, rfl⟩ := step_getDocument_eq_some taken
      exact stars.of_frame (fun _ _ => rfl) rfl fun _ shown => .inr ⟨shown, rfl⟩
  | getDocumentReply call movieId =>
      obtain ⟨data, favorites, -, -, rfl⟩ := step_reply_eq_some taken
      exact stars.of_frame (fun _ _ => rfl) rfl fun _ shown => .inr ⟨shown, rfl⟩
  | notify call check =>
      obtain ⟨inside, favorites, notified, rfl⟩ := step_notify_eq_some taken
      have submitted := (FavoriteSystem.step_notify_eq_some notified).1
      exact stars.notify rows answers serial.alone inside (serial.requests_eq_nil submitted)
  | selectFavoriteMovie now rowVM =>
      obtain ⟨-, selection, -, rfl⟩ := step_select_eq_some taken
      exact stars.of_frame (fun _ _ => rfl) rfl fun _ shown => .inr ⟨shown, rfl⟩
  | takeEffect selection =>
      obtain ⟨-, left, -, rfl⟩ := step_takeEffect_eq_some taken
      exact stars.of_frame (fun _ _ => rfl) rfl fun _ shown => .inr ⟨shown, rfl⟩
  | acknowledge selection =>
      obtain ⟨waits, rfl⟩ := step_acknowledge_eq_some taken
      exact stars.acknowledge rows answers waits

/-- In every run the answers and the stars are those of their sources. -/
theorem stars_of_run {subclass : ListSubclass}
    (reached : EventRun.runFrom (step account userLogin) (initial subclass stores) before =
      some system) :
    Answers account stores before system ∧ Stars account stores before system := by
  have all : Rows before system ∧ (∃ earlier, Serial earlier system) ∧
      Answers account stores before system ∧ Stars account stores before system := by
    refine EventRun.invariant (fun before system => Rows before system ∧
      (∃ earlier, Serial earlier system) ∧ Answers account stores before system ∧
        Stars account stores before system) ?_ ?_ reached
    · have noRow : (initial subclass stores).rowVMs = [] := by cases subclass <;> rfl
      refine ⟨⟨rfl, fun _ member => ?_, fun _ member => ?_, fun _ member => ?_⟩,
        ⟨[], CallGroup.balanced_empty, rfl, Nat.zero_le _⟩,
        ⟨fun _ => rfl, fun _ _ isRead => ?_, fun _ member => ?_, fun _ member => ?_⟩,
        ⟨fun _ _ _ _ isSource => ?_, fun _ member => ?_⟩⟩
      · exact absurd (noRow ▸ member) List.not_mem_nil
      · exact absurd member List.not_mem_nil
      · exact absurd member List.not_mem_nil
      · cases isRead
      · exact absurd member List.not_mem_nil
      · exact absurd member List.not_mem_nil
      · cases isSource
      · exact absurd (noRow ▸ member) List.not_mem_nil
    · rintro before event state next - ⟨rows, ⟨earlier, serial⟩, answers, stars⟩ taken
      exact ⟨rows.of_step taken, serial.of_step taken, answers.of_step rows taken,
        stars.of_step rows answers serial taken⟩
  exact all.2.2

/-- The store has the membership of each movie that is shown as at the source of its
star: no write changed it since, or it was changed back. -/
def Fresh (account : Account) (stores : FavoriteStores) (before : List StarEvent)
    (system : StarSystem) : Prop :=
  ∀ rowVM ∈ system.rowVMs, ∀ movieId ∈ rowVM.movie.id,
    ∀ source ∈ EventRun.lastAt (StarEvent.source rowVM movieId) before,
      memberAfter account stores movieId before = memberAfter account stores movieId source

/-- **When stars tell the truth.** For every subclass, account and store and every
interleaving of taps, checks and the store's own steps, the stars are the membership
whenever no call is outstanding exactly when, at these points, no star is taken from a
membership that a write has changed since. -/
theorem truthful_iff_fresh (account : Account) (userLogin : Option String)
    (stores : FavoriteStores) (subclass : ListSubclass) (events : List StarEvent) :
    EventRun.EachPoint (step account userLogin)
        (fun _ system => system.Idle → system.Truthful account) (initial subclass stores) events ↔
      EventRun.EachPoint (step account userLogin)
        (fun before system => system.Idle → Fresh account stores before system)
        (initial subclass stores) events := by
  refine EventRun.eachPoint_congr fun before system reached => imp_congr_right fun idle => ?_
  obtain ⟨answers, stars⟩ := stars_of_run reached
  refine forall₂_congr fun rowVM shown => forall₂_congr fun movieId named => ?_
  have isSet : (EventRun.lastAt (StarEvent.source rowVM movieId) before).isSome := by
    rcases stars.covered rowVM shown with ⟨check, waits, -⟩ | isSet
    · rw [idle.checks] at waits
      exact absurd waits List.not_mem_nil
    · exact isSet movieId
  obtain ⟨source, isSource⟩ := Option.isSome_iff_exists.mp isSet
  rw [(stars.sourced rowVM movieId source named isSource).2, answers.membership movieId,
    Option.some.injEq, isSource]
  simp only [Option.mem_def, Option.some.injEq, forall_eq']
  exact eq_comm

/-- Another screen has changed a favourite, and the list checks its stars again. "an" taps the
star of the movie 1 after the check has read that it is no favourite, and the check ends last. -/
def tappedDuringCheck : List StarEvent :=
  let rowVM : ListRowViewModel := { number := 0, movie := { id := some 1 } }
  let selection : Selection := { rowVM, movieId := 1, isFavoriteMovie := false, now := ⟨0⟩ }
  [.list .start,
    .list (.reply { operation := .start, page := 1 } (some 1) (some [{ id := some 1 }]) none),
    .getDocument 1,
    .getDocumentReply 0 1,
    .notify 0 { operation := some .start, rowVMs := [rowVM] },
    .list .loadFavoriteMovies,
    .getDocument 1,
    .selectFavoriteMovie ⟨0⟩ rowVM,
    .takeEffect selection,
    .acknowledge selection,
    .getDocumentReply 1 1,
    .notify 1 { operation := none, rowVMs := [rowVM] }]

/-- The star then says that the favourite is none. -/
theorem not_truthful_tappedDuringCheck :
    ¬ EventRun.EachPoint (step ⟨"an", "An", "an@mail", "", ⟨0⟩⟩ (some "an"))
      (fun _ system => system.Idle → system.Truthful ⟨"an", "An", "an@mail", "", ⟨0⟩⟩)
      (initial .newMovieList ⟨some [], fun _ => ∅⟩) tappedDuringCheck := by
  intro always
  have ends : (EventRun.runFrom (step ⟨"an", "An", "an@mail", "", ⟨0⟩⟩ (some "an"))
      (initial .newMovieList ⟨some [], fun _ => ∅⟩) tappedDuringCheck).map (fun system =>
        (decide (system.list.checks.length + system.writes.length + system.effects.length = 0),
          system.rowVMs, system.list.screen.isFavoriteMovie 0,
          isMember ⟨"an", "An", "an@mail", "", ⟨0⟩⟩ system.stores 1)) =
      some (true, [{ number := 0, movie := { id := some 1 } }], some false, true) := by
    decide +kernel
  obtain ⟨system, reached, same⟩ := Option.map_eq_some_iff.mp ends
  obtain ⟨isIdle, rest⟩ := Prod.mk.inj same
  obtain ⟨isShown, stars⟩ := Prod.mk.inj rest
  obtain ⟨star, member⟩ := Prod.mk.inj stars
  obtain ⟨noCalls, noEffects⟩ := Nat.eq_zero_of_add_eq_zero (of_decide_eq_true isIdle)
  obtain ⟨noChecks, noWrites⟩ := Nat.eq_zero_of_add_eq_zero noCalls
  have truthful := always tappedDuringCheck List.prefix_rfl system reached
    ⟨List.eq_nil_of_length_eq_zero noChecks, List.eq_nil_of_length_eq_zero noWrites,
      List.eq_nil_of_length_eq_zero noEffects⟩
  have told := truthful _ (isShown ▸ List.mem_cons_self) 1 rfl
  rw [star, member] at told
  cases told

end StarSystem

end MovieFun
