import MovieFun.View.Chat.Chronology

/-!
# Building at once and building up agree

A chat that fetches some messages and then listens to later ones, in batches cut
from them in date order, shows the same sections as a chat that fetches them all
(`incremental_eq_rebuild`). Both lay out one list: the messages by date, which is
one list when their dates are pairwise different.
-/

namespace MovieFun

open ChatEntry ChatSystem

variable {fm : DateFormatter} {share : AccountService}

/-- Messages of pairwise different dates. -/
def DistinctDates (messages : List Message) : Prop :=
  messages.Pairwise fun first second => first.sendDate ≠ second.sendDate

theorem DistinctDates.perm {messages others : List Message} (distinct : DistinctDates messages)
    (perm : messages.Perm others) : DistinctDates others :=
  (perm.pairwise_iff fun {_ _} different => Ne.symm different).mp distinct

/-- Messages with distinct dates have distinct stamps. -/
theorem DistinctDates.apart {messages : List Message} (distinct : DistinctDates messages) :
    messages.Pairwise fun first second => ¬ SameStamp first second :=
  distinct.imp fun different same => different same.2

/-- Messages of pairwise different dates can be sorted in one way. -/
theorem DistinctDates.eq_of_sorted {messages others : List Message}
    (distinct : DistinctDates messages) (dated : ∀ message ∈ messages, message.sendDate.isSome)
    (sorted : messages.Pairwise Message.NoLater) (othersSorted : others.Pairwise Message.NoLater)
    (perm : messages.Perm others) : messages = others := by
  refine List.Perm.eq_of_pairwise ?_ sorted othersSorted perm
  intro first second inFirst inSecond less back
  have inMessages := perm.mem_iff.mpr inSecond
  obtain ⟨firstDate, firstSent⟩ := Option.isSome_iff_exists.mp (dated first inFirst)
  obtain ⟨secondDate, secondSent⟩ := Option.isSome_iff_exists.mp (dated second inMessages)
  have same : first.sendDate = second.sendDate := by
    rw [firstSent, secondSent, le_antisymm ((Message.noLater_iff firstSent secondSent).mp less)
      ((Message.noLater_iff secondSent firstSent).mp back)]
  by_contra different
  have symmetric : Std.Symm fun first second : Message => first.sendDate ≠ second.sendDate :=
    ⟨fun _ _ => Ne.symm⟩
  exact List.Pairwise.forall distinct inFirst inMessages different same

/-- When every day can be read back, a build shows all messages with a date. -/
theorem shownMessages_perm (laws : fm.DayLaws) {messages : List Message}
    (dated : ∀ message ∈ messages, message.sendDate.isSome) :
    (shownMessages fm messages).Perm messages := by
  refine (Bucket.flatten_buckets_perm _ _ messages).trans (List.Perm.of_eq ?_)
  apply List.filter_eq_self.mpr
  intro message member
  obtain ⟨sendDate, sent⟩ := Option.isSome_iff_exists.mp (dated message member)
  obtain ⟨start, parsed⟩ := Option.isSome_iff_exists.mp (laws.parses sendDate)
  have read : Utils.dateFromString fm Utils.YYYYMMDD
      (Utils.stringFromDate fm Utils.YYYYMMDD (some sendDate)) = some start := parsed
  simp only [ChatController.dayKey, sent, read, Option.bind_eq_bind, Option.bind_some]
  rfl

/-- The chat after a start and the reply to its fetch. -/
def fetched (fm : DateFormatter) (share : AccountService) (movieId : String)
    (messages : List Message) : ChatSystem where
  controller :=
    { chatViewModel :=
        { assets := (shownMessages fm messages).flatMap (listedAssets share)
          movieId := some movieId
          sectionViewModels := builtSections fm share messages }
      messages := some messages }
  listeners := 1

/-- A start and its reply show the messages fetched. -/
theorem run_fetch (movieId : String) {messages : List Message}
    (signedIn : share.getAccountId.isSome) (stamped : ∀ message ∈ messages, message.Stamped) :
    run fm (some movieId) [.start, .fetchReply share (some messages) none] =
      some (fetched fm share movieId messages) := by
  let started : ChatSystem :=
    { initial (some movieId) with
      controller := (ChatController.initial (some movieId)).start, fetches := 1 }
  have shownStamped : ∀ message ∈ shownMessages fm messages, message.Stamped :=
    fun message member => stamped message (mem_shownMessages.mp member).1
  obtain ⟨chatViewModel, built⟩ := Option.isSome_iff_exists.mp
    (buildViewModels_isSome signedIn shownStamped started.controller.chatViewModel)
  obtain ⟨-, rfl⟩ := buildViewModels_eq_some built
  have completed : ChatController.fetchCompletion fm share (some messages) none
      started.controller = some (fetched fm share movieId messages).controller := by
    simp only [ChatController.fetchCompletion, built, Option.bind_eq_bind, Option.bind_some]
    rfl
  have replied : step fm started (.fetchReply share (some messages) none) =
      some (fetched fm share movieId messages) := by
    change handle fm started (.fetchReply share (some messages) none) = _
    simp only [handle, completed, Option.bind_eq_bind, Option.bind_some]
    rfl
  change (step fm started (.fetchReply share (some messages) none)).bind some = _
  rw [replied, Option.bind_some]

/-- The listener of the chat is past its first snapshot, and the sections lay out
the messages of a list. -/
structure Listening (fm : DateFormatter) (share : AccountService) (shown : List Message)
    (system : ChatSystem) : Prop where
  listening : 0 < system.listeners
  started : system.controller.didStart = true
  sections : system.sections = render fm (shown.map (builtEntry share))

/-- A batch of messages with new dates is shown below, sorted by date. -/
theorem step_batch (signedIn : share.getAccountId.isSome) {known shown batch : List Message}
    {system : ChatSystem} (listening : Listening fm share shown system)
    (held : system.held = some known)
    (stamped : ∀ message ∈ known ++ batch, message.Stamped)
    (distinct : DistinctDates (known ++ batch)) :
    ∃ next, step fm system (.listenerReply share (some batch) none) = some next ∧
      next.held = some (known ++ batch.insertionSort Message.NoLater) ∧
      Listening fm share (shown ++ batch.insertionSort Message.NoLater) next := by
  have gets : received system.held batch = some (batch.insertionSort Message.NoLater) := by
    rw [held]
    exact received_eq_sorted stamped distinct.apart
  obtain ⟨next, taken⟩ := Option.isSome_iff_exists.mp (step_listenerReply_isSome_iff.mpr
    ⟨listening.listening, fun _ _ => Option.isSome_of_mem gets⟩)
  obtain ⟨new, sections, gets', added, rfl⟩ := step_received listening.started signedIn taken
  rw [gets, Option.some.injEq] at gets'
  subst gets'
  refine ⟨_, taken, ?_, listening.listening, listening.started, ?_⟩
  · change system.held.map _ = _
    rw [held, Option.map_some]
  · obtain ⟨dated, -⟩ := timeline_appendRows added
    rw [listening.sections, appendRows_render dated, Option.some.injEq] at added
    rw [List.map_append]
    exact added.symm

/-- The snapshots of a listener that deliver batches. -/
def deliveries (share : AccountService) (batches : List (List Message)) : List ChatEvent :=
  batches.map fun batch => .listenerReply share (some batch) none

/-- Batches that shuffle consecutive cuts of a sorted list are shown as that list. -/
theorem run_deliveries (signedIn : share.getAccountId.isSome) {batches cuts : List (List Message)}
    (shuffled : List.Forall₂ List.Perm batches cuts)
    (ordered : cuts.flatten.Pairwise Message.NoLater)
    {known shown : List Message} {system : ChatSystem}
    (listening : Listening fm share shown system) (held : system.held = some known)
    (stamped : ∀ message ∈ known ++ cuts.flatten, message.Stamped)
    (distinct : DistinctDates (known ++ cuts.flatten)) :
    ∃ last, EventRun.runFrom (step fm) system (deliveries share batches) = some last ∧
      last.sections = render fm ((shown ++ cuts.flatten).map (builtEntry share)) := by
  induction shuffled generalizing known shown system with
  | nil =>
      refine ⟨system, rfl, ?_⟩
      rw [List.flatten_nil, List.append_nil, listening.sections]
  | @cons batch cut batches cuts perm shuffled ih =>
      rw [List.flatten_cons] at ordered stamped distinct ⊢
      obtain ⟨cutOrdered, restOrdered, -⟩ := List.pairwise_append.mp ordered
      have inOrder : batch.insertionSort Message.NoLater = cut := by
        refine (DistinctDates.eq_of_sorted ?_ ?_ cutOrdered
          (List.pairwise_insertionSort Message.NoLater batch)
          (perm.symm.trans (List.perm_insertionSort _ batch).symm)).symm
        · exact distinct.sublist ((List.sublist_append_left cut _).trans
            (List.sublist_append_right known _))
        · intro message member
          exact (stamped message (List.mem_append_right _ (List.mem_append_left _ member))).dated
      have delivered : (known ++ batch).Perm (known ++ cut) := perm.append_left known
      rw [← List.append_assoc] at stamped distinct
      obtain ⟨next, taken, nextHeld, nextListening⟩ := step_batch signedIn listening held
        (fun message member =>
          stamped message (List.mem_append_left _ (delivered.mem_iff.mp member)))
        (DistinctDates.perm (distinct.sublist (List.sublist_append_left _ _)) delivered.symm)
      rw [inOrder] at nextHeld nextListening
      obtain ⟨last, rest, sections⟩ :=
        ih restOrdered nextListening nextHeld stamped distinct
      refine ⟨last, ?_, ?_⟩
      · change (step fm system (.listenerReply share (some batch) none)).bind _ = _
        rw [taken, Option.bind_some]
        exact rest
      · rw [sections, List.append_assoc]

/-- **Building at once and building up agree.** For messages of pairwise
different dates, the ones of `later` after the ones of `earlier`: fetching
`earlier` and listening to `later`, in batches that shuffle consecutive cuts of
it in date order, shows the sections of a fetch of all of them in any order. -/
theorem incremental_eq_rebuild (laws : fm.DayLaws) (movieId : String)
    (signedIn : share.getAccountId.isSome) (earlier later all : List Message)
    (batches cuts : List (List Message))
    (stamped : ∀ message ∈ earlier ++ later, message.Stamped)
    (distinct : DistinctDates (earlier ++ later))
    (follows : ∀ first ∈ earlier, ∀ second ∈ later, ∀ date ∈ first.sendDate,
      ∀ laterDate ∈ second.sendDate, date < laterDate)
    (cutFrom : cuts.flatten.Perm later) (ordered : cuts.flatten.Pairwise Message.NoLater)
    (shuffled : List.Forall₂ List.Perm batches cuts) (together : all.Perm (earlier ++ later))
    (firstChanges : Option (List Message)) (firstError : Option NSError) :
    ∃ incremental whole,
      run fm (some movieId) (.start :: .fetchReply share (some earlier) none ::
        .listenerReply share firstChanges firstError :: deliveries share batches) =
          some incremental ∧
      run fm (some movieId) [.start, .fetchReply share (some all) none] = some whole ∧
      incremental.sections = whole.sections := by
  have inEarlier : ∀ message ∈ earlier, message.Stamped := fun message member =>
    stamped message (List.mem_append_left _ member)
  have inAll : ∀ message ∈ all, message.Stamped := fun message member =>
    stamped message (together.mem_iff.mp member)
  have same : (earlier ++ cuts.flatten).Perm (earlier ++ later) := cutFrom.append_left earlier
  -- the state after the first snapshot, from which the batches are delivered
  let past : ChatSystem :=
    { fetched fm share movieId earlier with
      controller := { (fetched fm share movieId earlier).controller with didStart := true } }
  have listening : Listening fm share (shownMessages fm earlier) past :=
    ⟨Nat.one_pos, rfl, builtSections_eq_render laws.injective share earlier⟩
  obtain ⟨incremental, delivered, sections⟩ := run_deliveries signedIn shuffled ordered listening
    rfl (fun message member => stamped message (same.mem_iff.mp member)) (distinct.perm same.symm)
  refine ⟨incremental, fetched fm share movieId all, ?_, run_fetch movieId signedIn inAll, ?_⟩
  · change run fm (some movieId) ([.start, .fetchReply share (some earlier) none] ++
      .listenerReply share firstChanges firstError :: deliveries share batches) = _
    rw [run_append, run_fetch movieId signedIn inEarlier]
    change EventRun.runFrom (step fm) past (deliveries share batches) = _
    exact delivered
  · -- both lay out the messages sorted by date
    have earlierPerm := shownMessages_perm laws fun message member =>
      (inEarlier message member).dated
    have allPerm := shownMessages_perm laws fun message member => (inAll message member).dated
    have perm : (shownMessages fm all).Perm (shownMessages fm earlier ++ cuts.flatten) :=
      (allPerm.trans together).trans ((earlierPerm.append_right _).trans same).symm
    have sorted : (shownMessages fm earlier ++ cuts.flatten).Pairwise Message.NoLater := by
      refine List.pairwise_append.mpr ⟨shownMessages_sorted laws earlier, ordered, ?_⟩
      intro first inFirst second inSecond
      have memberFirst := earlierPerm.mem_iff.mp inFirst
      have memberSecond := cutFrom.mem_iff.mp inSecond
      obtain ⟨date, sent⟩ := Option.isSome_iff_exists.mp (inEarlier first memberFirst).dated
      obtain ⟨laterDate, laterSent⟩ := Option.isSome_iff_exists.mp
        (stamped second (List.mem_append_right _ memberSecond)).dated
      exact (Message.noLater_iff sent laterSent).mpr
        (follows first memberFirst second memberSecond date sent laterDate laterSent).le
    have equal : shownMessages fm all = shownMessages fm earlier ++ cuts.flatten := by
      refine DistinctDates.eq_of_sorted (distinct.perm (allPerm.trans together).symm) ?_
        (shownMessages_sorted laws all) sorted perm
      exact fun message member => (inAll message (allPerm.mem_iff.mp member)).dated
    rw [sections, ← equal]
    exact (builtSections_eq_render laws.injective share all).symm

/-- A message of an account at an instant. -/
def messageAt (accountId : String) (nanoseconds : Int) : Message where
  accountId := some accountId
  sendDate := some ⟨nanoseconds⟩

/-- Two batches over midnight, the second one shuffled, agree with one fetch. -/
theorem incremental_eq_rebuild_overMidnight : ∃ incremental whole,
    run (Gregorian.formatter ⟨0⟩) (some "1") (.start ::
      .fetchReply ⟨none, some "an"⟩ (some [messageAt "binh" 1566396309000000000]) none ::
      .listenerReply ⟨none, some "an"⟩ (some []) none ::
      deliveries ⟨none, some "an"⟩
        [[messageAt "an" 1566396400000000000],
          [messageAt "binh" 1566482800000000000, messageAt "an" 1566432000000000000]]) =
        some incremental ∧
    run (Gregorian.formatter ⟨0⟩) (some "1") [.start,
      .fetchReply ⟨none, some "an"⟩ (some
        [messageAt "binh" 1566482800000000000, messageAt "an" 1566396400000000000,
          messageAt "binh" 1566396309000000000, messageAt "an" 1566432000000000000]) none] =
        some whole ∧
    incremental.sections = whole.sections := by
  refine incremental_eq_rebuild (Gregorian.dayLaws ⟨0⟩) "1" rfl _
    [messageAt "an" 1566396400000000000, messageAt "an" 1566432000000000000,
      messageAt "binh" 1566482800000000000] _ _
    [[messageAt "an" 1566396400000000000],
      [messageAt "an" 1566432000000000000, messageAt "binh" 1566482800000000000]]
    (by decide) (by unfold DistinctDates; decide) (by decide) (.refl _) (by decide) ?_ (by decide)
    _ _
  exact .cons (.refl _) (.cons (.swap _ _ _) .nil)

end MovieFun
