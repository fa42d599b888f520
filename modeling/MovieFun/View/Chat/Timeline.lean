import MovieFun.View.Chat.ChatController

/-!
# The timeline of the chat

What the sections of the chat are for: a list of messages, shown by day.
`timeline` reads that list off the rows, `render` lays a list out in sections.
`addRowViewModel` appends to the timeline whatever the sections look like
(`timeline_addRowViewModel`), and it keeps rendered sections rendered
(`addRowViewModel_render`). A build renders what it shows
(`sectionViewModels_of_buildViewModels`).
-/

namespace MovieFun

/-- A message as the chat shows it. -/
structure ChatEntry where
  message : Message
  bubble : ChatBubble
deriving DecidableEq, Repr

/-- The entry of a message row. -/
def ChatRowViewModel.chatEntry (rowVM : ChatRowViewModel) : Option ChatEntry :=
  match rowVM.currentMessage, rowVM.subclass with
  | some message, .message bubble => some { message, bubble }
  | _, _ => none

/-- The messages of one section, from top to bottom. -/
def ChatSectionViewModel.entries (sectionVM : ChatSectionViewModel) : List ChatEntry :=
  sectionVM.rowViewModels.filterMap ChatRowViewModel.chatEntry

/-- The messages that the sections show, from top to bottom. -/
def timeline (sectionVMs : List ChatSectionViewModel) : List ChatEntry :=
  sectionVMs.flatMap ChatSectionViewModel.entries

namespace ChatEntry

/-- The row of an entry. -/
def row (previousMessage : Option Message) (entry : ChatEntry) : ChatRowViewModel where
  previousMessage
  currentMessage := some entry.message
  subclass := .message entry.bubble

/-- The rows of the messages of one day, each with the message above it. -/
def rows : Option Message → List ChatEntry → List ChatRowViewModel
  | _, [] => []
  | previousMessage, entry :: entries =>
      entry.row previousMessage :: rows (some entry.message) entries

/-- The message of the entry has a date. -/
def Dated (entry : ChatEntry) : Prop := entry.message.sendDate.isSome

/-- The day an entry belongs to, as a header shows it. -/
def day (fm : DateFormatter) (entry : ChatEntry) : Option String :=
  Utils.stringFromDate fm Utils.YYYYMMDD entry.message.sendDate

/-- The messages of the entries are of one day. -/
def sameDay (fm : DateFormatter) (first second : ChatEntry) : Bool :=
  first.day fm = second.day fm

/-- The success of a send changes the bubble of its own row. -/
def setSuccess (documentID : String) (success : Bool) (entry : ChatEntry) : ChatEntry :=
  { entry with bubble := entry.bubble.setSuccess documentID success }

/-- The section of one day. -/
def renderSection (fm : DateFormatter) (entries : List ChatEntry) : ChatSectionViewModel :=
  ⟨{ subclass := .header (entries.head?.bind (day fm)) } :: rows none entries⟩

/-- One section for each run of entries of one day. -/
def render (fm : DateFormatter) (entries : List ChatEntry) : List ChatSectionViewModel :=
  (entries.splitBy (sameDay fm)).map (renderSection fm)

end ChatEntry

open ChatEntry

section Timeline

@[simp] theorem ChatEntry.chatEntry_row (previousMessage : Option Message) (entry : ChatEntry) :
    (entry.row previousMessage).chatEntry = some entry := rfl

@[simp] theorem timeline_nil : timeline [] = [] := rfl

@[simp] theorem timeline_append (first second : List ChatSectionViewModel) :
    timeline (first ++ second) = timeline first ++ timeline second :=
  List.flatMap_append

@[simp] theorem timeline_singleton (sectionVM : ChatSectionViewModel) :
    timeline [sectionVM] = sectionVM.entries := by
  simp only [timeline, List.flatMap_cons, List.flatMap_nil, List.append_nil]

@[simp] theorem ChatSectionViewModel.entries_append (first second : List ChatRowViewModel) :
    entries ⟨first ++ second⟩ = entries ⟨first⟩ ++ entries ⟨second⟩ :=
  List.filterMap_append

@[simp] theorem ChatEntry.filterMap_rows (previousMessage : Option Message)
    (entries : List ChatEntry) :
    (rows previousMessage entries).filterMap ChatRowViewModel.chatEntry = entries := by
  induction entries generalizing previousMessage with
  | nil => rfl
  | cons entry entries ih => simp only [rows, List.filterMap_cons, chatEntry_row, ih]

@[simp] theorem ChatEntry.entries_renderSection (fm : DateFormatter) (entries : List ChatEntry) :
    (renderSection fm entries).entries = entries :=
  filterMap_rows none entries

/-- Rendering shows exactly the entries. -/
@[simp] theorem timeline_render (fm : DateFormatter) (entries : List ChatEntry) :
    timeline (render fm entries) = entries := by
  simp only [timeline, render, List.flatMap_map, entries_renderSection]
  rw [List.flatMap_id']
  exact List.flatten_splitBy _ _

/-- The sends' successes do not move rows. -/
@[simp] theorem timeline_setSuccess (documentID : String) (success : Bool)
    (sectionVMs : List ChatSectionViewModel) :
    timeline (sectionVMs.map (ChatSectionViewModel.setSuccess documentID success)) =
      (timeline sectionVMs).map (ChatEntry.setSuccess documentID success) := by
  have ofRow : ∀ rowVM : ChatRowViewModel,
      (rowVM.setSuccess documentID success).chatEntry =
        rowVM.chatEntry.map (ChatEntry.setSuccess documentID success) := by
    intro ⟨previousMessage, currentMessage, subclass⟩
    cases subclass <;> cases currentMessage <;> rfl
  have ofSection : ∀ sectionVM : ChatSectionViewModel,
      (sectionVM.setSuccess documentID success).entries =
        sectionVM.entries.map (ChatEntry.setSuccess documentID success) := by
    intro sectionVM
    simp only [ChatSectionViewModel.entries, ChatSectionViewModel.setSuccess, List.filterMap_map,
      List.map_filterMap, Function.comp_def, ofRow]
  simp only [timeline, List.flatMap_map, List.map_flatMap, ofSection]

@[simp] theorem ChatEntry.sameDay_setSuccess (fm : DateFormatter) (documentID : String)
    (success : Bool) (first second : ChatEntry) :
    sameDay fm (first.setSuccess documentID success) (second.setSuccess documentID success) =
      sameDay fm first second := rfl

theorem ChatEntry.rows_setSuccess (documentID : String) (success : Bool)
    (previousMessage : Option Message) (entries : List ChatEntry) :
    rows previousMessage (entries.map (ChatEntry.setSuccess documentID success)) =
      (rows previousMessage entries).map (ChatRowViewModel.setSuccess documentID success) := by
  induction entries generalizing previousMessage with
  | nil => rfl
  | cons entry entries ih =>
      simp only [List.map_cons, rows, List.cons.injEq]
      exact ⟨rfl, ih _⟩

theorem ChatEntry.renderSection_setSuccess (fm : DateFormatter) (documentID : String)
    (success : Bool) (entries : List ChatEntry) :
    renderSection fm (entries.map (ChatEntry.setSuccess documentID success)) =
      (renderSection fm entries).setSuccess documentID success := by
  simp only [renderSection, ChatSectionViewModel.setSuccess, rows_setSuccess, List.map_cons]
  cases entries <;> rfl

/-- The sends' successes keep rendered sections rendered. -/
theorem ChatEntry.render_setSuccess (fm : DateFormatter) (documentID : String) (success : Bool)
    (entries : List ChatEntry) :
    render fm (entries.map (ChatEntry.setSuccess documentID success)) =
      (render fm entries).map (ChatSectionViewModel.setSuccess documentID success) := by
  simp only [render, Bucket.splitBy_map, sameDay_setSuccess, List.map_map, Function.comp_def,
    renderSection_setSuccess]

end Timeline

section AddRow

variable {fm : DateFormatter}

/-- `addRowViewModel` appends to the timeline, and only messages with a date. -/
theorem timeline_addRowViewModel {entry : ChatEntry} {sectionVMs next : List ChatSectionViewModel}
    (added : ChatController.addRowViewModel fm (entry.row none) sectionVMs = some next) :
    entry.Dated ∧ timeline next = timeline sectionVMs ++ [entry] := by
  simp only [ChatController.addRowViewModel, row, Option.bind_eq_bind, Option.bind_some,
    Option.bind_eq_some_iff] at added
  obtain ⟨sendDate, dated, added⟩ := added
  refine ⟨Option.isSome_of_mem dated, ?_⟩
  cases last : sectionVMs.getLast? with
  | none =>
      rw [last] at added
      cases added
      rw [timeline_append, timeline_singleton]
      rfl
  | some lastSection =>
      rw [last] at added
      dsimp only at added
      split at added
      · cases added
        conv_rhs => rw [← List.dropLast_append_getLast? lastSection last]
        simp only [timeline_append, timeline_singleton, ChatSectionViewModel.entries_append,
          List.append_assoc]
        cases lastSection.rowViewModels.getLast? <;> rfl
      · cases added
        rw [timeline_append, timeline_singleton]
        rfl

variable (fm) in
/-- `addRowViewModel` takes every message with a date. -/
theorem addRowViewModel_isSome {entry : ChatEntry} (dated : entry.Dated)
    (sectionVMs : List ChatSectionViewModel) :
    (ChatController.addRowViewModel fm (entry.row none) sectionVMs).isSome := by
  obtain ⟨sendDate, sent⟩ := Option.isSome_iff_exists.mp dated
  simp only [ChatController.addRowViewModel, row, Option.bind_eq_bind, Option.bind_some, sent]
  cases sectionVMs.getLast? with
  | none => rfl
  | some lastSection =>
      dsimp only
      split <;> rfl

/-- The message above the row that follows the entries. -/
def lastMessage (previousMessage : Option Message) (entries : List ChatEntry) : Option Message :=
  entries.foldl (fun _ entry => some entry.message) previousMessage

theorem ChatEntry.rows_concat (previousMessage : Option Message) (entries : List ChatEntry)
    (entry : ChatEntry) :
    rows previousMessage (entries ++ [entry]) =
      rows previousMessage entries ++ [entry.row (lastMessage previousMessage entries)] := by
  induction entries generalizing previousMessage with
  | nil => rfl
  | cons first entries ih =>
      simp only [List.cons_append, rows, ih]
      rfl

variable (fm) in
/-- The message of a section's last row is the last message shown, and the
header has none. -/
theorem ChatEntry.getLast?_renderSection_rows (entries : List ChatEntry) :
    ∃ rowVM, (renderSection fm entries).rowViewModels.getLast? = some rowVM ∧
      rowVM.currentMessage = lastMessage none entries := by
  induction entries using List.reverseRecOn with
  | nil => exact ⟨_, rfl, rfl⟩
  | append_singleton entries entry _ =>
      refine ⟨entry.row (lastMessage none entries), ?_, ?_⟩
      · simp only [renderSection, rows_concat, ← List.cons_append, List.getLast?_concat]
      · simp only [lastMessage, List.foldl_append, List.foldl_cons, List.foldl_nil, row]

/-- Appending to a section of the same day renders one more entry. -/
theorem ChatEntry.renderSection_concat {first : ChatEntry} {entries : List ChatEntry}
    (entry : ChatEntry) :
    renderSection fm ((first :: entries) ++ [entry]) =
      ⟨(renderSection fm (first :: entries)).rowViewModels ++
        [entry.row (lastMessage none (first :: entries))]⟩ := by
  simp only [renderSection, rows_concat]
  rfl

/-- Every run of one day is not empty, and its days are one day. -/
theorem ChatEntry.day_of_mem_splitBy {entries group : List ChatEntry}
    (inside : group ∈ entries.splitBy (sameDay fm)) :
    ∃ first rest, group = first :: rest ∧ ∀ entry ∈ group, entry.day fm = first.day fm := by
  cases group with
  | nil => exact absurd inside (List.nil_notMem_splitBy _ _)
  | cons first rest =>
      refine ⟨first, rest, rfl, fun entry member => ?_⟩
      exact Bucket.eq_of_mem_splitBy inside entry member first List.mem_cons_self

/-- `addRowViewModel` keeps rendered sections rendered. -/
theorem addRowViewModel_render {entry : ChatEntry} (dated : entry.Dated)
    (entries : List ChatEntry) :
    ChatController.addRowViewModel fm (entry.row none) (render fm entries) =
      some (render fm (entries ++ [entry])) := by
  obtain ⟨sendDate, sent⟩ := Option.isSome_iff_exists.mp dated
  have entryDay : entry.day fm = Utils.stringFromDate fm Utils.YYYYMMDD (some sendDate) := by
    rw [day, sent]
  have newSection : renderSection fm [entry] =
      ⟨[ChatController.headerVM fm sendDate, entry.row none]⟩ := by
    simp only [renderSection, List.head?_cons, Option.bind_some, entryDay]
    rfl
  have single : [entry].splitBy (sameDay fm) = [[entry]] := rfl
  simp only [ChatController.addRowViewModel, Option.bind_eq_bind]
  change (entry.message.sendDate.bind _) = _
  rw [sent, Option.bind_some]
  rcases List.eq_nil_or_concat (entries.splitBy (sameDay fm)) with empty | ⟨front, group, split⟩
  · have noEntries : entries = [] := List.splitBy_eq_nil.mp empty
    subst noEntries
    simp only [render, List.splitBy_nil, List.map_nil, List.getLast?_nil, List.nil_append,
      single, List.map_cons, newSection]
  · rw [List.concat_eq_append] at split
    have inside : group ∈ entries.splitBy (sameDay fm) := by
      rw [split]
      exact List.mem_append_right _ List.mem_cons_self
    obtain ⟨first, rest, rfl, oneDay⟩ := day_of_mem_splitBy inside
    have rendered : render fm entries =
        front.map (renderSection fm) ++ [renderSection fm (first :: rest)] := by
      rw [render, split, List.map_append, List.map_singleton]
    have header : ChatController.lastHeader (renderSection fm (first :: rest)) =
        first.day fm := rfl
    have lastEntry : ∀ shown ∈ (first :: rest).getLast?, shown.day fm = first.day fm := by
      intro shown last
      exact oneDay shown (List.mem_of_getLast? last)
    simp only [rendered, List.getLast?_concat, header, List.dropLast_concat, ← entryDay]
    by_cases same : first.day fm = entry.day fm
    · have headerSome : (first.day fm).isSome := by
        rw [same, entryDay]
        rfl
      have extended := Bucket.splitBy_concat_of_related (a := entry) split (fun shown last => by
        rw [sameDay, decide_eq_true_eq, lastEntry shown last, same])
      obtain ⟨rowVM, lastRow, current⟩ :=
        getLast?_renderSection_rows fm (first :: rest)
      rw [if_pos ⟨headerSome, same⟩, lastRow, render, extended, List.map_append,
        List.map_singleton, renderSection_concat, ← current]
      rfl
    · have lastOfEntries : ∀ shown ∈ entries.getLast?, sameDay fm shown entry = false := by
        intro shown last
        rw [← List.flatten_splitBy (sameDay fm) entries, split, List.flatten_append,
          List.flatten_singleton, List.getLast?_append_cons] at last
        rw [sameDay, decide_eq_false_iff_not, lastEntry shown last]
        exact same
      rw [if_neg (fun both => same both.2), render, List.splitBy_append_cons [] lastOfEntries,
        split, single, List.map_append, List.map_append, List.map_singleton, List.map_singleton,
        newSection]

/-- Several rows appended one after another. -/
def appendRows (fm : DateFormatter) (entries : List ChatEntry)
    (sectionVMs : List ChatSectionViewModel) : Option (List ChatSectionViewModel) :=
  entries.foldlM (fun sectionVMs entry =>
    ChatController.addRowViewModel fm (entry.row none) sectionVMs) sectionVMs

theorem appendRows_cons (entry : ChatEntry) (entries : List ChatEntry)
    (sectionVMs : List ChatSectionViewModel) :
    appendRows fm (entry :: entries) sectionVMs =
      (ChatController.addRowViewModel fm (entry.row none) sectionVMs).bind
        (appendRows fm entries) := rfl

/-- Appended rows are those of dated entries, and come after what was there. -/
theorem timeline_appendRows {entries : List ChatEntry}
    {sectionVMs next : List ChatSectionViewModel}
    (added : appendRows fm entries sectionVMs = some next) :
    (∀ entry ∈ entries, entry.Dated) ∧ timeline next = timeline sectionVMs ++ entries := by
  induction entries generalizing sectionVMs with
  | nil =>
      cases added
      exact ⟨fun _ member => absurd member List.not_mem_nil, (List.append_nil _).symm⟩
  | cons entry entries ih =>
      rw [appendRows_cons, Option.bind_eq_some_iff] at added
      obtain ⟨middle, first, rest⟩ := added
      obtain ⟨dated, firstTimeline⟩ := timeline_addRowViewModel first
      obtain ⟨restDated, restTimeline⟩ := ih rest
      refine ⟨List.forall_mem_cons.mpr ⟨dated, restDated⟩, ?_⟩
      rw [restTimeline, firstTimeline, List.append_assoc, List.singleton_append]

/-- Appending rows renders what was shown and what was appended. -/
theorem appendRows_render {entries : List ChatEntry} (dated : ∀ entry ∈ entries, entry.Dated)
    (shown : List ChatEntry) :
    appendRows fm entries (render fm shown) = some (render fm (shown ++ entries)) := by
  induction entries generalizing shown with
  | nil => rw [List.append_nil]; rfl
  | cons entry entries ih =>
      obtain ⟨first, rest⟩ := List.forall_mem_cons.mp dated
      rw [appendRows_cons, addRowViewModel_render first, Option.bind_some, ih rest,
        List.append_assoc, List.singleton_append]

end AddRow

section Build

variable {fm : DateFormatter}

/-- A message with the two fields that the chat unwraps. -/
structure Message.Stamped (message : Message) : Prop where
  accounted : message.accountId.isSome
  dated : message.sendDate.isSome

instance (message : Message) : Decidable message.Stamped :=
  decidable_of_iff (message.accountId.isSome ∧ message.sendDate.isSome)
    ⟨fun both => ⟨both.1, both.2⟩, fun stamped => ⟨stamped.accounted, stamped.dated⟩⟩

/-- The entry of a built row: own messages are on the right. -/
def builtEntry (share : AccountService) (message : Message) : ChatEntry where
  message
  bubble := if share.getAccountId = message.accountId then .right true none none else .left

/-- The messages that a build shows, by day and each day by date. -/
def shownMessages (fm : DateFormatter) (messages : List Message) : List Message :=
  (ChatController.createGroupMessage fm messages).flatten

/-- The assets of a built message. -/
def listedAssets (share : AccountService) (message : Message) : List ChatAsset :=
  share.getAccountId.elim [] fun accountId => ChatController.builtAssets accountId message

/-- A message with a day has a date. -/
theorem sendDate_of_dayKey {message : Message}
    (keyed : (ChatController.dayKey fm message).isSome) : message.sendDate.isSome := by
  cases undated : message.sendDate with
  | none => simp [ChatController.dayKey, undated] at keyed
  | some sendDate => rfl

/-- The messages that are shown are those with a day. -/
theorem mem_shownMessages {messages : List Message} {message : Message} :
    message ∈ shownMessages fm messages ↔
      message ∈ messages ∧ (ChatController.dayKey fm message).isSome := by
  rw [shownMessages, ChatController.createGroupMessage,
    (Bucket.flatten_buckets_perm _ _ messages).mem_iff, List.mem_filter]

/-- One row of a group: what the loop adds before it goes on. -/
theorem buildRows_cons {share : AccountService} {previousMessage : Option Message}
    {hasHeader : Bool} {message : Message} {groupMessage : List Message}
    {built : List ChatRowViewModel × List ChatAsset} (dated : message.sendDate.isSome)
    (made : ChatController.buildRows fm share previousMessage hasHeader
      (message :: groupMessage) = some built) :
    (message.Stamped ∧ share.getAccountId.isSome) ∧ ∃ rest,
      ChatController.buildRows fm share (some message) true groupMessage = some rest ∧
      built = ((if hasHeader then [] else
          [{ subclass := .header ((builtEntry share message).day fm) }]) ++
            (builtEntry share message).row previousMessage :: rest.1,
        listedAssets share message ++ rest.2) := by
  obtain ⟨sendDate, sent⟩ := Option.isSome_iff_exists.mp dated
  simp only [ChatController.buildRows, sent, Option.bind_eq_bind, Option.bind_eq_some_iff] at made
  obtain ⟨accountId, signedIn, sender, own, rest, following, made⟩ := made
  cases made
  refine ⟨⟨⟨Option.isSome_of_mem own, dated⟩, Option.isSome_of_mem signedIn⟩, rest, following, ?_⟩
  have sameSide : (share.getAccountId = message.accountId) = (accountId = sender) := by
    rw [signedIn, own, Option.some.injEq]
  simp only [builtEntry, row, listedAssets, signedIn, Option.elim_some, day, sent,
    ChatController.headerVM, ← sameSide]

/-- The rows of a group below its header. -/
theorem buildRows_of_hasHeader {share : AccountService} {previousMessage : Option Message}
    {groupMessage : List Message} {built : List ChatRowViewModel × List ChatAsset}
    (dated : ∀ message ∈ groupMessage, message.sendDate.isSome)
    (made : ChatController.buildRows fm share previousMessage true groupMessage = some built) :
    (∀ message ∈ groupMessage, message.Stamped ∧ share.getAccountId.isSome) ∧
      built = (rows previousMessage (groupMessage.map (builtEntry share)),
        groupMessage.flatMap (listedAssets share)) := by
  induction groupMessage generalizing previousMessage built with
  | nil =>
      cases made
      exact ⟨fun _ member => absurd member List.not_mem_nil, rfl⟩
  | cons message groupMessage ih =>
      obtain ⟨stamped, rest, following, rfl⟩ :=
        buildRows_cons (dated message List.mem_cons_self) made
      obtain ⟨restStamped, rfl⟩ :=
        ih (fun later member => dated later (List.mem_cons_of_mem _ member)) following
      exact ⟨List.forall_mem_cons.mpr ⟨stamped, restStamped⟩, rfl⟩

/-- A group of dated messages is built as the section of its entries. -/
theorem buildRows_eq_renderSection {share : AccountService} {groupMessage : List Message}
    {built : List ChatRowViewModel × List ChatAsset} (nonempty : groupMessage ≠ [])
    (dated : ∀ message ∈ groupMessage, message.sendDate.isSome)
    (made : ChatController.buildRows fm share none false groupMessage = some built) :
    (∀ message ∈ groupMessage, message.Stamped ∧ share.getAccountId.isSome) ∧
      built = ((renderSection fm (groupMessage.map (builtEntry share))).rowViewModels,
        groupMessage.flatMap (listedAssets share)) := by
  cases groupMessage with
  | nil => exact absurd rfl nonempty
  | cons message groupMessage =>
      obtain ⟨stamped, rest, following, rfl⟩ :=
        buildRows_cons (dated message List.mem_cons_self) made
      obtain ⟨restStamped, rfl⟩ := buildRows_of_hasHeader
        (fun later member => dated later (List.mem_cons_of_mem _ member)) following
      exact ⟨List.forall_mem_cons.mpr ⟨stamped, restStamped⟩, rfl⟩

variable (fm) in
/-- Stamped messages are built when somebody is signed in. -/
theorem buildRows_isSome {share : AccountService} {groupMessage : List Message}
    (signedIn : share.getAccountId.isSome)
    (stamped : ∀ message ∈ groupMessage, message.Stamped)
    (previousMessage : Option Message) (hasHeader : Bool) :
    (ChatController.buildRows fm share previousMessage hasHeader groupMessage).isSome := by
  obtain ⟨accountId, own⟩ := Option.isSome_iff_exists.mp signedIn
  induction groupMessage generalizing previousMessage hasHeader with
  | nil => rfl
  | cons message groupMessage ih =>
      have first := stamped message List.mem_cons_self
      obtain ⟨sendDate, sent⟩ := Option.isSome_iff_exists.mp first.dated
      obtain ⟨sender, account⟩ := Option.isSome_iff_exists.mp first.accounted
      obtain ⟨rest, following⟩ := Option.isSome_iff_exists.mp
        (ih (fun later member => stamped later (List.mem_cons_of_mem _ member)) (some message) true)
      simp only [ChatController.buildRows, sent, own, account, following, Option.bind_eq_bind,
        Option.bind_some, Option.isSome_some]

/-- A group of the build is not empty and all its messages have a date. -/
theorem dated_of_mem_createGroupMessage {messages groupMessage : List Message}
    (inside : groupMessage ∈ ChatController.createGroupMessage fm messages) :
    groupMessage ≠ [] ∧ ∀ message ∈ groupMessage, message.sendDate.isSome := by
  refine ⟨?_, fun message member => ?_⟩
  · rintro rfl
    exact Bucket.nil_notMem_buckets _ _ _ inside
  · obtain ⟨key, keyed⟩ := Bucket.key_eq_of_mem_bucket _ _ inside
    exact sendDate_of_dayKey (Option.isSome_of_mem (keyed message member))

/-- The entries that a build of messages shows. -/
def builtEntries (fm : DateFormatter) (share : AccountService) (messages : List Message) :
    List ChatEntry :=
  (shownMessages fm messages).map (builtEntry share)

/-- The sections of a build, one for each group. -/
def builtSections (fm : DateFormatter) (share : AccountService) (messages : List Message) :
    List ChatSectionViewModel :=
  (ChatController.createGroupMessage fm messages).map fun groupMessage =>
    renderSection fm (groupMessage.map (builtEntry share))

/-- Groups of dated messages are built as the sections of their entries. -/
theorem mapM_buildRows_eq {share : AccountService} {groupMessages : List (List Message)}
    {built : List (List ChatRowViewModel × List ChatAsset)}
    (dated : ∀ groupMessage ∈ groupMessages, groupMessage ≠ [] ∧
      ∀ message ∈ groupMessage, message.sendDate.isSome)
    (made : groupMessages.mapM (ChatController.buildRows fm share none false) = some built) :
    (∀ groupMessage ∈ groupMessages, ∀ message ∈ groupMessage,
        message.Stamped ∧ share.getAccountId.isSome) ∧
      built = groupMessages.map fun groupMessage =>
        ((renderSection fm (groupMessage.map (builtEntry share))).rowViewModels,
          groupMessage.flatMap (listedAssets share)) := by
  induction groupMessages generalizing built with
  | nil =>
      cases made
      exact ⟨fun _ member => absurd member List.not_mem_nil, rfl⟩
  | cons groupMessage groupMessages ih =>
      simp only [List.mapM_cons, Option.bind_eq_bind, Option.bind_eq_some_iff] at made
      obtain ⟨first, madeFirst, rest, madeRest, made⟩ := made
      cases made
      obtain ⟨nonempty, firstDated⟩ := dated groupMessage List.mem_cons_self
      obtain ⟨firstStamped, rfl⟩ := buildRows_eq_renderSection nonempty firstDated madeFirst
      obtain ⟨restStamped, rfl⟩ :=
        ih (fun later member => dated later (List.mem_cons_of_mem _ member)) madeRest
      exact ⟨List.forall_mem_cons.mpr ⟨firstStamped, restStamped⟩, rfl⟩

variable (fm) in
/-- Groups of stamped messages are built when somebody is signed in. -/
theorem mapM_buildRows_isSome {share : AccountService} {groupMessages : List (List Message)}
    (signedIn : share.getAccountId.isSome)
    (stamped : ∀ groupMessage ∈ groupMessages, ∀ message ∈ groupMessage, message.Stamped) :
    (groupMessages.mapM (ChatController.buildRows fm share none false)).isSome := by
  induction groupMessages with
  | nil => rfl
  | cons groupMessage groupMessages ih =>
      obtain ⟨groupStamped, restStamped⟩ := List.forall_mem_cons.mp stamped
      obtain ⟨first, madeFirst⟩ := Option.isSome_iff_exists.mp
        (buildRows_isSome fm signedIn groupStamped none false)
      obtain ⟨rest, madeRest⟩ := Option.isSome_iff_exists.mp (ih restStamped)
      simp only [List.mapM_cons, madeFirst, madeRest, Option.bind_eq_bind, Option.bind_some]
      rfl

/-- What a build leaves behind, and that it got through: what it shows is stamped,
and somebody is signed in if it shows anything. -/
theorem buildViewModels_eq_some {share : AccountService} {messages : List Message}
    {chatViewModel next : ChatViewModel}
    (made : ChatController.buildViewModels fm share
      (ChatController.createGroupMessage fm messages) chatViewModel = some next) :
    (∀ message ∈ shownMessages fm messages, message.Stamped ∧ share.getAccountId.isSome) ∧
      next = { chatViewModel with
        sectionViewModels := builtSections fm share messages
        assets := (shownMessages fm messages).flatMap (listedAssets share) } := by
  simp only [ChatController.buildViewModels, Option.bind_eq_bind, Option.bind_eq_some_iff] at made
  obtain ⟨built, traversed, made⟩ := made
  obtain ⟨stamped, rfl⟩ :=
    mapM_buildRows_eq (fun _ inside => dated_of_mem_createGroupMessage inside) traversed
  cases made
  refine ⟨fun message member => ?_, ?_⟩
  · obtain ⟨groupMessage, inside, member⟩ := List.mem_flatten.mp member
    exact stamped groupMessage inside message member
  · have together : (shownMessages fm messages).flatMap (listedAssets share) =
        (ChatController.createGroupMessage fm messages).flatMap fun groupMessage =>
          groupMessage.flatMap (listedAssets share) := by
      rw [shownMessages, ← List.flatMap_id, List.flatMap_assoc]
      rfl
    simp only [builtSections, together, List.map_map, List.flatMap_map]
    rfl

/-- Stamped messages can be built when somebody is signed in. -/
theorem buildViewModels_isSome {share : AccountService} {messages : List Message}
    (signedIn : share.getAccountId.isSome)
    (stamped : ∀ message ∈ shownMessages fm messages, message.Stamped)
    (chatViewModel : ChatViewModel) :
    (ChatController.buildViewModels fm share
      (ChatController.createGroupMessage fm messages) chatViewModel).isSome := by
  obtain ⟨built, made⟩ := Option.isSome_iff_exists.mp
    (mapM_buildRows_isSome fm signedIn fun groupMessage inside message member =>
        stamped message (List.mem_flatten.mpr ⟨groupMessage, inside, member⟩))
  simp only [ChatController.buildViewModels, made, Option.bind_eq_bind, Option.bind_some]
  rfl

/-- A build shows the messages it groups, whatever the days. -/
theorem timeline_builtSections (share : AccountService) (messages : List Message) :
    timeline (builtSections fm share messages) = builtEntries fm share messages := by
  simp only [timeline, builtSections, builtEntries, shownMessages, List.flatMap_map,
    entries_renderSection, List.map_flatten]
  rfl

/-- The key of a message is the start of its day. -/
theorem dayKey_eq_some {message : Message} {key : TimeInterval}
    (keyed : ChatController.dayKey fm message = some key) :
    ∃ sendDate start, message.sendDate = some sendDate ∧ fm.dayStart sendDate = some start ∧
      start.timeIntervalSince1970 = key := by
  simp only [ChatController.dayKey, Option.bind_eq_bind, Option.bind_eq_some_iff] at keyed
  obtain ⟨sendDate, sent, start, parsed, keyed⟩ := keyed
  cases keyed
  exact ⟨sendDate, start, sent, parsed, rfl⟩

/-- When days can be read back apart, a build renders what it shows. -/
theorem builtSections_eq_render (days : fm.DayInjective) (share : AccountService)
    (messages : List Message) :
    builtSections fm share messages = render fm (builtEntries fm share messages) := by
  have groups : (shownMessages fm messages).splitBy
      (fun first second => sameDay fm (builtEntry share first) (builtEntry share second)) =
        ChatController.createGroupMessage fm messages := by
    apply Bucket.splitBy_flatten_buckets _ _
    · intro first second key firstKey secondKey
      obtain ⟨firstDate, firstStart, firstSent, firstParsed, rfl⟩ := dayKey_eq_some firstKey
      obtain ⟨secondDate, secondStart, secondSent, secondParsed, same⟩ := dayKey_eq_some secondKey
      have sameStart : secondStart = firstStart := congrArg Date.mk same
      have sameText := days _ _ _ firstParsed (sameStart ▸ secondParsed)
      simp only [sameDay, day, builtEntry, firstSent, secondSent, decide_eq_true_eq]
      exact congrArg some sameText
    · intro first second firstKey secondKey firstKeyed secondKeyed less
      obtain ⟨firstDate, firstStart, firstSent, firstParsed, rfl⟩ := dayKey_eq_some firstKeyed
      obtain ⟨secondDate, secondStart, secondSent, secondParsed, rfl⟩ := dayKey_eq_some secondKeyed
      simp only [sameDay, day, builtEntry, firstSent, secondSent, decide_eq_false_iff_not]
      intro same
      have sameText : fm.dayString firstDate = fm.dayString secondDate := Option.some.inj same
      have sameStart := DateFormatter.dayStart_congr sameText
      rw [firstParsed, secondParsed, Option.some.injEq] at sameStart
      exact absurd less (sameStart ▸ lt_irrefl _)
  rw [render, builtEntries, Bucket.splitBy_map, groups, builtSections, List.map_map]
  rfl

end Build

end MovieFun
