import MovieFun.View.Chat.Timeline

/-!
# What the listener admits

The listener shows a message of a batch unless `checkExistMessage` finds one with
its account id and date among the messages held. `received` is the part of a
batch that gets through. `mem_received_iff` tells it from the batch as delivered:
the messages not found, and of those with one stamp only the first.
-/

namespace MovieFun

/-- What `checkExistMessage` takes for one message. -/
def SameStamp (first second : Message) : Prop :=
  first.accountId = second.accountId ∧ first.sendDate = second.sendDate

instance : DecidableRel SameStamp := fun first second =>
  inferInstanceAs (Decidable (first.accountId = second.accountId ∧
    first.sendDate = second.sendDate))

theorem SameStamp.refl (message : Message) : SameStamp message message := ⟨rfl, rfl⟩

theorem SameStamp.symm {first second : Message} (same : SameStamp first second) :
    SameStamp second first := ⟨same.1.symm, same.2.symm⟩

theorem SameStamp.trans {first second third : Message} (same : SameStamp first second)
    (next : SameStamp second third) : SameStamp first third :=
  ⟨same.1.trans next.1, same.2.trans next.2⟩

/-- Of two messages with the same stamp none is later. -/
theorem SameStamp.noLater {first second : Message} (same : SameStamp first second) :
    Message.NoLater first second := by
  unfold Message.NoLater
  rw [same.2]
  cases second.sendDate with
  | none => trivial
  | some sendDate => exact le_rfl

/-- A message whose date a text keeps has the stamp of what is decoded from its document. -/
theorem sameStamp_of_addChatMessage {fm : DateFormatter} {message : Message}
    {sendDate writtenAt : Date} {dictionary : Dictionary}
    (sent : message.sendDate = some sendDate)
    (keeps : Utils.getCurrentDate fm sendDate = some sendDate)
    (write : ChatService.addChatMessage writtenAt message = some dictionary)
    (documentID : String) :
    SameStamp message (ChatService.getMessage fm documentID dictionary.stored) := by
  refine ⟨?_, ?_⟩
  · rw [ChatService.getMessage_accountId_of_addChatMessage write]
  · rw [ChatService.getMessage_sendDate_of_addChatMessage write sent, keeps, sent]

/-- A message is no later than another if its date is not. -/
theorem Message.noLater_iff {first second : Message} {firstDate secondDate : Date}
    (firstSent : first.sendDate = some firstDate) (secondSent : second.sendDate = some secondDate) :
    Message.NoLater first second ↔ firstDate ≤ secondDate := by
  unfold Message.NoLater
  rw [firstSent, secondSent]

instance : Std.Total Message.NoLater := ⟨fun first second => by
  unfold Message.NoLater
  cases first.sendDate with
  | none => exact .inl trivial
  | some firstDate =>
      cases second.sendDate with
      | none => exact .inr trivial
      | some secondDate => exact le_total firstDate secondDate⟩

instance : IsTrans Message Message.NoLater := ⟨fun first second third => by
  unfold Message.NoLater
  cases first.sendDate with
  | none => exact fun _ _ => trivial
  | some firstDate =>
      cases second.sendDate with
      | none => exact fun one _ => one.elim
      | some secondDate =>
          cases third.sendDate with
          | none => exact fun _ two => two.elim
          | some thirdDate => exact le_trans⟩

open ChatController

section Check

variable {message : Message}

/-- The check of a message goes from one message held to the next. -/
theorem checkExistMessageIn_cons (mess : Message) (messages : List Message) :
    checkExistMessageIn message (mess :: messages) =
      (checkExistMessageIn message [mess]).bind fun found =>
        if found then some true else checkExistMessageIn message messages := by
  simp only [checkExistMessageIn, Option.bind_eq_bind]
  cases mess.accountId with
  | none => rfl
  | some messAccountId =>
      cases message.accountId with
      | none => rfl
      | some accountId =>
          simp only [Option.bind_some]
          split
          · cases mess.sendDate with
            | none => rfl
            | some messSendDate =>
                cases message.sendDate with
                | none => rfl
                | some sendDate =>
                    simp only [Option.bind_some]
                    split <;> rfl
          · rfl

theorem checkExistMessageIn_append (first second : List Message) :
    checkExistMessageIn message (first ++ second) =
      (checkExistMessageIn message first).bind fun found =>
        if found then some true else checkExistMessageIn message second := by
  induction first with
  | nil => rfl
  | cons mess first ih =>
      rw [List.cons_append, checkExistMessageIn_cons, ih, checkExistMessageIn_cons mess first,
        Option.bind_assoc]
      cases checkExistMessageIn message [mess] with
      | none => rfl
      | some found => cases found <;> rfl

/-- Between stamped messages the check is a comparison. -/
theorem checkExistMessageIn_singleton {mess : Message} (messStamped : mess.Stamped)
    (stamped : message.Stamped) :
    checkExistMessageIn message [mess] = some (decide (SameStamp mess message)) := by
  obtain ⟨messAccountId, messAccount⟩ := Option.isSome_iff_exists.mp messStamped.accounted
  obtain ⟨messSendDate, messSent⟩ := Option.isSome_iff_exists.mp messStamped.dated
  obtain ⟨accountId, account⟩ := Option.isSome_iff_exists.mp stamped.accounted
  obtain ⟨sendDate, sent⟩ := Option.isSome_iff_exists.mp stamped.dated
  simp only [checkExistMessageIn, SameStamp, messAccount, messSent, account, sent,
    Option.bind_eq_bind, Option.bind_some, Option.some.injEq]
  by_cases sameAccount : messAccountId = accountId
  · by_cases sameDate : messSendDate = sendDate
    · simp [sameAccount, sameDate]
    · simp [sameAccount, sameDate]
  · simp [sameAccount]

/-- The outcome for one held message, whatever it lacks. -/
theorem sameStamp_of_checkExistMessageIn {mess : Message} {found : Bool}
    (checked : checkExistMessageIn message [mess] = some found) :
    (found = true → message.Stamped ∧ SameStamp mess message) ∧
      (found = false → ¬ SameStamp mess message) := by
  simp only [checkExistMessageIn, Option.bind_eq_bind, Option.bind_eq_some_iff] at checked
  obtain ⟨messAccountId, messAccount, accountId, account, checked⟩ := checked
  split at checked
  · next sameAccount =>
    simp only [Option.bind_eq_some_iff] at checked
    obtain ⟨messSendDate, messSent, sendDate, sent, checked⟩ := checked
    split at checked
    · next sameDate =>
      cases checked
      refine ⟨fun _ => ⟨⟨Option.isSome_of_mem account, Option.isSome_of_mem sent⟩, ?_⟩, nofun⟩
      exact ⟨by rw [messAccount, account, sameAccount], by rw [messSent, sent, sameDate]⟩
    · next otherDate =>
      cases checked
      refine ⟨nofun, fun _ same => otherDate ?_⟩
      rw [SameStamp, messSent, sent, Option.some.injEq] at same
      exact same.2
  · next otherAccount =>
    cases checked
    refine ⟨nofun, fun _ same => otherAccount ?_⟩
    rw [SameStamp, messAccount, account, Option.some.injEq] at same
    exact same.1

/-- A message that is found has the stamp of one held, and one that is not found
has the stamp of none. -/
theorem sameStamp_of_checkExistMessage {messages : List Message} {found : Bool}
    (checked : checkExistMessage (some messages) message = some found) :
    (found = true → message.Stamped ∧ ∃ mess ∈ messages, SameStamp mess message) ∧
      (found = false → ∀ mess ∈ messages, ¬ SameStamp mess message) := by
  change checkExistMessageIn message messages = some found at checked
  induction messages with
  | nil =>
      cases checked
      exact ⟨nofun, fun _ _ member => absurd member List.not_mem_nil⟩
  | cons mess messages ih =>
      rw [checkExistMessageIn_cons, Option.bind_eq_some_iff] at checked
      obtain ⟨atFirst, checkedFirst, checked⟩ := checked
      obtain ⟨whenFound, whenNot⟩ := sameStamp_of_checkExistMessageIn checkedFirst
      cases atFirst with
      | true =>
          cases checked
          refine ⟨fun _ => ⟨(whenFound rfl).1, mess, List.mem_cons_self, (whenFound rfl).2⟩, nofun⟩
      | false =>
          obtain ⟨later, none⟩ := ih checked
          refine ⟨fun isFound => ?_, fun isNot => ?_⟩
          · obtain ⟨stamped, held, member, same⟩ := later isFound
            exact ⟨stamped, held, List.mem_cons_of_mem _ member, same⟩
          · exact List.forall_mem_cons.mpr ⟨whenNot rfl, none isNot⟩

/-- Among stamped messages the check does not trap. -/
theorem checkExistMessage_isSome {messages : List Message}
    (messagesStamped : ∀ mess ∈ messages, mess.Stamped) (stamped : message.Stamped) :
    (checkExistMessage (some messages) message).isSome := by
  change (checkExistMessageIn message messages).isSome
  induction messages with
  | nil => rfl
  | cons mess messages ih =>
      obtain ⟨messStamped, restStamped⟩ := List.forall_mem_cons.mp messagesStamped
      rw [checkExistMessageIn_cons, checkExistMessageIn_singleton messStamped stamped,
        Option.bind_some]
      split
      · rfl
      · exact ih restStamped

/-- The check after one more stamped message is held. -/
theorem checkExistMessage_concat {known : Option (List Message)} {mess : Message}
    (messStamped : mess.Stamped) (stamped : message.Stamped) :
    checkExistMessage (known.map (· ++ [mess])) message =
      (checkExistMessage known message).map fun found =>
        found || (known.isSome && decide (SameStamp mess message)) := by
  cases known with
  | none => rfl
  | some messages =>
      change checkExistMessageIn message (messages ++ [mess]) = _
      rw [checkExistMessageIn_append]
      change _ = (checkExistMessageIn message messages).map _
      cases checkExistMessageIn message messages with
      | none => rfl
      | some found =>
          cases found with
          | true => rfl
          | false =>
              change checkExistMessageIn message [mess] = _
              rw [checkExistMessageIn_singleton messStamped stamped]
              rfl

/-- The check reads nothing but the stamp. -/
theorem checkExistMessage_congr {other : Message} (known : Option (List Message))
    (same : SameStamp other message) :
    checkExistMessage known other = checkExistMessage known message := by
  cases known with
  | none => rfl
  | some messages =>
      change checkExistMessageIn other messages = checkExistMessageIn message messages
      induction messages with
      | nil => rfl
      | cons mess messages ih => simp only [checkExistMessageIn, same.1, same.2, ih]

end Check

section Admitted

/-- The messages of a batch that the loop of the listener shows, in its order. -/
def admitted (known : Option (List Message)) : List Message → Option (List Message)
  | [] => some []
  | message :: batch => do
      if ← checkExistMessage known message then admitted known batch
      else
        let _ ← message.accountId
        let _ ← message.sendDate
        let rest ← admitted (known.map (· ++ [message])) batch
        return message :: rest

variable {known : Option (List Message)} {message : Message} {batch new : List Message}

/-- The first message of a batch is found, or it is shown and then held. -/
theorem admitted_cons (taken : admitted known (message :: batch) = some new) :
    message.Stamped ∧
      ((checkExistMessage known message = some true ∧ admitted known batch = some new) ∨
        (checkExistMessage known message = some false ∧ ∃ rest,
          admitted (known.map (· ++ [message])) batch = some rest ∧ new = message :: rest)) := by
  simp only [admitted, Option.bind_eq_bind, Option.bind_eq_some_iff] at taken
  obtain ⟨found, checked, taken⟩ := taken
  cases found with
  | true =>
      refine ⟨?_, .inl ⟨checked, taken⟩⟩
      cases known with
      | none => cases checked
      | some messages => exact ((sameStamp_of_checkExistMessage checked).1 rfl).1
  | false =>
      simp only [Bool.false_eq_true, if_false, Option.bind_eq_some_iff] at taken
      obtain ⟨accountId, account, sendDate, sent, rest, following, taken⟩ := taken
      cases taken
      exact ⟨⟨Option.isSome_of_mem account, Option.isSome_of_mem sent⟩,
        .inr ⟨checked, rest, following, rfl⟩⟩

/-- A batch that does not trap has an account id and a date in every message. -/
theorem stamped_of_admitted (taken : admitted known batch = some new) :
    ∀ message ∈ batch, message.Stamped := by
  induction batch generalizing known new with
  | nil => exact fun _ member => absurd member List.not_mem_nil
  | cons first batch ih =>
      obtain ⟨stamped, ⟨-, rest⟩ | ⟨-, rest, following, -⟩⟩ := admitted_cons taken
      · exact List.forall_mem_cons.mpr ⟨stamped, ih rest⟩
      · exact List.forall_mem_cons.mpr ⟨stamped, ih following⟩

/-- What is shown of a batch is in its order. -/
theorem admitted_sublist (taken : admitted known batch = some new) : new.Sublist batch := by
  induction batch generalizing known new with
  | nil =>
      cases taken
      exact .slnil
  | cons first batch ih =>
      obtain ⟨-, ⟨-, rest⟩ | ⟨-, rest, following, rfl⟩⟩ := admitted_cons taken
      · exact (ih rest).cons first
      · exact (ih following).cons_cons first

/-- Without messages held the whole batch is shown. -/
theorem admitted_none (taken : admitted none batch = some new) : new = batch := by
  induction batch generalizing new with
  | nil =>
      cases taken
      rfl
  | cons first batch ih =>
      obtain ⟨-, ⟨found, -⟩ | ⟨-, rest, following, rfl⟩⟩ := admitted_cons taken
      · cases found
      · rw [ih following]

/-- A message gets through exactly when it is not found and is the first of its
stamp. -/
theorem mem_admitted_iff (taken : admitted known batch = some new) :
    message ∈ new ↔ message ∈ batch ∧ checkExistMessage known message = some false ∧
      (known.isSome → batch.find? (fun earlier => SameStamp earlier message) = some message) := by
  induction batch generalizing known new with
  | nil =>
      cases taken
      simp
  | cons first batch ih =>
      obtain ⟨firstStamped, ⟨found, rest⟩ | ⟨notFound, rest, following, rfl⟩⟩ :=
        admitted_cons taken
      · rw [ih rest, List.mem_cons]
        -- a message with the stamp of one that is found is found as well
        have unlike : checkExistMessage known message = some false →
            ¬ SameStamp first message := by
          intro checked same
          rw [← checkExistMessage_congr known same, found] at checked
          cases checked
        constructor
        · rintro ⟨member, checked, leads⟩
          refine ⟨.inr member, checked, fun held => ?_⟩
          rw [List.find?_cons_of_neg (by simpa using unlike checked)]
          exact leads held
        · rintro ⟨member, checked, leads⟩
          have different : message ≠ first := by
            rintro rfl
            exact unlike checked (SameStamp.refl _)
          refine ⟨member.resolve_left different, checked, fun held => ?_⟩
          have led := leads held
          rw [List.find?_cons_of_neg (by simpa using unlike checked)] at led
          exact led
      · have stamped := stamped_of_admitted taken
        rw [List.mem_cons, List.mem_cons, ih following, Option.isSome_map]
        by_cases isFirst : message = first
        · subst isFirst
          refine iff_of_true (.inl rfl) ⟨.inl rfl, notFound, fun _ => ?_⟩
          exact List.find?_cons_of_pos (by simpa using SameStamp.refl message)
        · simp only [isFirst, false_or]
          apply and_congr_right
          intro member
          have own := stamped message (List.mem_cons_of_mem _ member)
          rw [checkExistMessage_concat firstStamped own]
          cases checkExistMessage known message with
          | none => simp
          | some isFound =>
              by_cases same : SameStamp first message
              · rw [List.find?_cons_of_pos (by simpa using same)]
                have apart : ¬ first = message := fun equal => isFirst equal.symm
                cases known.isSome <;> simp [same, apart]
              · rw [List.find?_cons_of_neg (by simpa using same)]
                simp [same]

/-- What gets through has pairwise different stamps. -/
theorem admitted_pairwise (held : known.isSome) (taken : admitted known batch = some new) :
    new.Pairwise fun first second => ¬ SameStamp first second := by
  induction batch generalizing known new with
  | nil =>
      cases taken
      exact .nil
  | cons first batch ih =>
      obtain ⟨firstStamped, ⟨-, rest⟩ | ⟨-, rest, following, rfl⟩⟩ := admitted_cons taken
      · exact ih held rest
      · have stillHeld : (known.map (· ++ [first])).isSome := by rwa [Option.isSome_map]
        refine List.pairwise_cons.mpr ⟨fun later member same => ?_, ih stillHeld following⟩
        obtain ⟨inBatch, checked, -⟩ := (mem_admitted_iff following).mp member
        have own := stamped_of_admitted following later inBatch
        rw [checkExistMessage_concat firstStamped own, Option.map_eq_some_iff] at checked
        obtain ⟨isFound, -, apart⟩ := checked
        simp [held, same] at apart

/-- A batch of stamped messages traps only in the check. -/
theorem admitted_isSome_iff :
    (admitted known batch).isSome ↔
      (∀ message ∈ batch, message.Stamped) ∧
        ∀ message ∈ batch, (checkExistMessage known message).isSome := by
  induction batch generalizing known with
  | nil => simp [admitted]
  | cons first batch ih =>
      rw [List.forall_mem_cons, List.forall_mem_cons]
      constructor
      · intro done
        obtain ⟨new, taken⟩ := Option.isSome_iff_exists.mp done
        obtain ⟨firstStamped, ⟨found, rest⟩ | ⟨notFound, rest, following, -⟩⟩ :=
          admitted_cons taken
        · obtain ⟨stamped, checked⟩ := ih.mp (Option.isSome_of_mem rest)
          exact ⟨⟨firstStamped, stamped⟩, Option.isSome_of_mem found, checked⟩
        · obtain ⟨stamped, checked⟩ := ih.mp (Option.isSome_of_mem following)
          refine ⟨⟨firstStamped, stamped⟩, Option.isSome_of_mem notFound, ?_⟩
          intro message member
          have one := checked message member
          rwa [checkExistMessage_concat firstStamped (stamped message member),
            Option.isSome_map] at one
      · rintro ⟨⟨firstStamped, stamped⟩, firstChecked, checked⟩
        obtain ⟨found, isFound⟩ := Option.isSome_iff_exists.mp firstChecked
        obtain ⟨accountId, account⟩ := Option.isSome_iff_exists.mp firstStamped.accounted
        obtain ⟨sendDate, sent⟩ := Option.isSome_iff_exists.mp firstStamped.dated
        have later : (admitted (known.map (· ++ [first])) batch).isSome := by
          refine ih.mpr ⟨stamped, fun message member => ?_⟩
          rw [checkExistMessage_concat firstStamped (stamped message member), Option.isSome_map]
          exact checked message member
        obtain ⟨rest, following⟩ := Option.isSome_iff_exists.mp later
        cases found with
        | true =>
            simp only [admitted, isFound, Option.bind_eq_bind, Option.bind_some, if_true]
            exact ih.mpr ⟨stamped, checked⟩
        | false =>
            simp only [admitted, isFound, account, sent, following, Option.bind_eq_bind,
              Option.bind_some, Bool.false_eq_true, if_false]
            rfl

end Admitted

section Received

/-- The messages of a delivered batch that the listener shows, in the order it
shows them. -/
def received (known : Option (List Message)) (batch : List Message) : Option (List Message) :=
  (sortedBySendDate batch).bind (admitted known)

/-- What decides, of a batch as delivered, whether the listener shows a message:
it is not found, and it is the first of its stamp when messages are held. -/
def Fresh (known : Option (List Message)) (batch : List Message) (message : Message) : Prop :=
  message ∈ batch ∧ checkExistMessage known message = some false ∧
    (known.isSome → batch.find? (fun earlier => SameStamp earlier message) = some message)

variable {known : Option (List Message)} {message : Message} {batch new : List Message}

/-- What is shown of a batch is shown of the sorted batch. -/
theorem received_eq_some (taken : received known batch = some new) :
    admitted known (batch.insertionSort Message.NoLater) = some new := by
  obtain ⟨sorted, isSorted, taken⟩ := Option.bind_eq_some_iff.mp taken
  unfold sortedBySendDate at isSorted
  split at isSorted
  · cases isSorted
    exact taken
  · cases isSorted

/-- Sorting keeps the order of messages with one stamp. -/
theorem find?_insertionSort (batch : List Message) (message : Message) :
    (batch.insertionSort Message.NoLater).find? (fun earlier => SameStamp earlier message) =
      batch.find? (fun earlier => SameStamp earlier message) := by
  rw [← List.head?_filter, ← List.head?_filter, Bucket.filter_insertionSort_of_tied]
  intro first second firstSame secondSame
  exact ((of_decide_eq_true firstSame).trans (of_decide_eq_true secondSame).symm).noLater

/-- A message of a batch is shown exactly if it is fresh. -/
theorem mem_received_iff (taken : received known batch = some new) :
    message ∈ new ↔ Fresh known batch message := by
  rw [mem_admitted_iff (received_eq_some taken), find?_insertionSort,
    (List.perm_insertionSort _ batch).mem_iff]
  rfl

/-- What the listener shows is in the order of the dates. -/
theorem received_sorted (taken : received known batch = some new) :
    new.Pairwise Message.NoLater :=
  (List.pairwise_insertionSort Message.NoLater batch).sublist
    (admitted_sublist (received_eq_some taken))

/-- What is shown of a batch has no stamp twice, where messages are held. -/
theorem received_pairwise (held : known.isSome) (taken : received known batch = some new) :
    new.Pairwise fun first second => ¬ SameStamp first second :=
  admitted_pairwise held (received_eq_some taken)

/-- Without messages held, the whole batch is shown. -/
theorem received_none (taken : received none batch = some new) : new.Perm batch :=
  admitted_none (received_eq_some taken) ▸ List.perm_insertionSort _ batch

/-- A batch that is received has stamped messages only. -/
theorem stamped_of_received (taken : received known batch = some new) :
    ∀ message ∈ batch, message.Stamped := fun message member =>
  stamped_of_admitted (received_eq_some taken) message
    ((List.perm_insertionSort _ batch).mem_iff.mpr member)

/-- Every message that is not found is shown, or one with its stamp is. -/
theorem exists_received_of_not_found (taken : received known batch = some new)
    (inside : message ∈ batch) (notFound : checkExistMessage known message = some false) :
    ∃ shown ∈ new, SameStamp shown message := by
  have some_same : (batch.find? fun earlier => SameStamp earlier message).isSome :=
    List.find?_isSome.mpr ⟨message, inside, by simpa using SameStamp.refl message⟩
  obtain ⟨first, isFirst⟩ := Option.isSome_iff_exists.mp some_same
  have same : SameStamp first message := by simpa using List.find?_some isFirst
  refine ⟨first, (mem_received_iff taken).mpr ⟨List.mem_of_find?_eq_some isFirst, ?_, ?_⟩, same⟩
  · rw [checkExistMessage_congr known same, notFound]
  · intro _
    have sameSearch : (fun earlier => decide (SameStamp earlier first)) =
        fun earlier => decide (SameStamp earlier message) := by
      funext earlier
      exact decide_eq_decide.mpr ⟨fun it => it.trans same, fun it => it.trans same.symm⟩
    rw [sameSearch, isFirst]

/-- The listener gets through a batch exactly when its messages are stamped and
the check traps on none of them. -/
theorem received_isSome_iff :
    (received known batch).isSome ↔
      (∀ message ∈ batch, message.Stamped) ∧
        ∀ message ∈ batch, (checkExistMessage known message).isSome := by
  have same : ∀ message, message ∈ batch.insertionSort Message.NoLater ↔ message ∈ batch :=
    fun message => (List.perm_insertionSort _ batch).mem_iff
  have sorted : (admitted known (batch.insertionSort Message.NoLater)).isSome ↔
      (∀ message ∈ batch, message.Stamped) ∧
        ∀ message ∈ batch, (checkExistMessage known message).isSome := by
    rw [admitted_isSome_iff]
    simp only [same]
  rw [← sorted, received]
  constructor
  · intro done
    obtain ⟨new, taken⟩ := Option.isSome_iff_exists.mp done
    exact Option.isSome_of_mem (received_eq_some taken)
  · intro done
    have stamped := (sorted.mp done).1
    rw [sortedBySendDate, if_pos (.inr fun message member => (stamped message member).dated)]
    exact done

/-- A batch of messages with new stamps gets through as it is. -/
theorem admitted_eq_self {messages : List Message}
    (stamped : ∀ message ∈ messages ++ batch, message.Stamped)
    (apart : (messages ++ batch).Pairwise fun first second => ¬ SameStamp first second) :
    admitted (some messages) batch = some batch := by
  induction batch generalizing messages with
  | nil => rfl
  | cons message batch ih =>
      have own : message.Stamped :=
        stamped message (List.mem_append_right _ List.mem_cons_self)
      have notFound : checkExistMessage (some messages) message = some false := by
        obtain ⟨found, checked⟩ := Option.isSome_iff_exists.mp
          (checkExistMessage_isSome (fun mess member =>
            stamped mess (List.mem_append_left _ member)) own)
        cases found with
        | false => exact checked
        | true =>
            obtain ⟨-, mess, member, same⟩ := (sameStamp_of_checkExistMessage checked).1 rfl
            exact absurd same
              ((List.pairwise_append.mp apart).2.2 mess member message List.mem_cons_self)
      obtain ⟨accountId, account⟩ := Option.isSome_iff_exists.mp own.accounted
      obtain ⟨sendDate, sent⟩ := Option.isSome_iff_exists.mp own.dated
      have moved : messages ++ message :: batch = (messages ++ [message]) ++ batch := by
        rw [List.append_assoc, List.singleton_append]
      rw [moved] at stamped apart
      simp only [admitted, notFound, account, sent, Option.map_some, ih stamped apart,
        Option.bind_eq_bind, Option.bind_some, Bool.false_eq_true, if_false]
      rfl

/-- The listener shows all of a batch with new stamps, sorted by date. -/
theorem received_eq_sorted {messages : List Message}
    (stamped : ∀ message ∈ messages ++ batch, message.Stamped)
    (apart : (messages ++ batch).Pairwise fun first second => ¬ SameStamp first second) :
    received (some messages) batch = some (batch.insertionSort Message.NoLater) := by
  have perm : (messages ++ batch.insertionSort Message.NoLater).Perm (messages ++ batch) :=
    (List.perm_insertionSort _ batch).append_left messages
  have dated : ∀ message ∈ batch, message.sendDate.isSome := fun message member =>
    (stamped message (List.mem_append_right _ member)).dated
  rw [received, sortedBySendDate, if_pos (.inr dated), Option.bind_some]
  apply admitted_eq_self (fun message member => stamped message (perm.mem_iff.mp member))
  exact (perm.pairwise_iff fun {first second} different same => different same.symm).mpr apart

end Received

section Listener

variable {fm : DateFormatter} {share : AccountService}

/-- The loop of the listener: it shows what it admits and holds it from then on. -/
theorem foldlM_receiveMessage {accountId : String} (signedIn : share.getAccountId = some accountId)
    {batch : List Message} {controller next : ChatController} {haveAddMessage added : Bool}
    (looped : batch.foldlM (receiveMessage fm accountId) (controller, haveAddMessage) =
      some (next, added)) :
    ∃ new sectionViewModels, admitted controller.messages batch = some new ∧
      appendRows fm (new.map (builtEntry share)) controller.chatViewModel.sectionViewModels =
        some sectionViewModels ∧
      added = (haveAddMessage || !new.isEmpty) ∧
      next = { controller with
        messages := controller.messages.map (· ++ new)
        chatViewModel := { controller.chatViewModel with sectionViewModels } } := by
  induction batch generalizing controller haveAddMessage with
  | nil =>
      cases looped
      refine ⟨[], _, rfl, rfl, (Bool.or_false _).symm, ?_⟩
      cases held : next.messages with
      | none => rw [Option.map_none, ← held]
      | some messages => rw [Option.map_some, List.append_nil, ← held]
  | cons message batch ih =>
      simp only [List.foldlM_cons, Option.bind_eq_bind, Option.bind_eq_some_iff] at looped
      obtain ⟨⟨middle, middleAdded⟩, received, looped⟩ := looped
      simp only [receiveMessage, Option.bind_eq_bind, Option.bind_eq_some_iff] at received
      obtain ⟨found, checked, received⟩ := received
      cases found with
      | true =>
          cases received
          obtain ⟨new, sectionViewModels, taken, appended, flag, rfl⟩ := ih looped
          refine ⟨new, sectionViewModels, ?_, appended, flag, rfl⟩
          simp only [admitted, checked, Option.bind_eq_bind, Option.bind_some, if_true]
          exact taken
      | false =>
          simp only [Bool.false_eq_true, if_false, Option.bind_eq_some_iff] at received
          obtain ⟨sender, account, afterFirst, addedFirst, received⟩ := received
          cases received
          obtain ⟨new, sectionViewModels, taken, appended, flag, rfl⟩ := ih looped
          have sameRow : receivedRow accountId sender message =
              (builtEntry share message).row none := by
            simp only [receivedRow, builtEntry, ChatEntry.row, signedIn, account,
              Option.some.injEq, ne_eq]
            by_cases own : sender = accountId
            · simp [own]
            · simp [own, Ne.symm own]
          rw [sameRow] at addedFirst
          obtain ⟨dated, -⟩ := timeline_addRowViewModel addedFirst
          obtain ⟨sendDate, sent⟩ := Option.isSome_iff_exists.mp dated
          have dateOf : message.sendDate = some sendDate := sent
          refine ⟨message :: new, sectionViewModels, ?_, ?_, ?_, ?_⟩
          · simp only [admitted, checked, account, dateOf, taken, Option.bind_eq_bind,
              Option.bind_some, Bool.false_eq_true, if_false]
            rfl
          · rw [List.map_cons, appendRows_cons, addedFirst, Option.bind_some]
            exact appended
          · rw [flag]
            cases haveAddMessage <;> rfl
          · cases held : controller.messages with
            | none => rfl
            | some messages => simp only [Option.map_some, List.append_assoc, List.singleton_append]

variable (fm) in
/-- The loop gets through what `admitted` gets through. -/
theorem foldlM_receiveMessage_isSome (accountId : String)
    {batch new : List Message} {controller : ChatController}
    (taken : admitted controller.messages batch = some new) (haveAddMessage : Bool) :
    (batch.foldlM (receiveMessage fm accountId) (controller, haveAddMessage)).isSome := by
  induction batch generalizing controller new haveAddMessage with
  | nil => rfl
  | cons message batch ih =>
      rw [List.foldlM_cons]
      obtain ⟨stamped, ⟨found, rest⟩ | ⟨notFound, rest, following, -⟩⟩ := admitted_cons taken
      · simp only [receiveMessage, found, Option.bind_eq_bind, Option.bind_some, if_true]
        exact ih rest haveAddMessage
      · obtain ⟨sender, account⟩ := Option.isSome_iff_exists.mp stamped.accounted
        let entry : ChatEntry :=
          { message, bubble := if sender ≠ accountId then .left else .right true none none }
        obtain ⟨sectionViewModels, added⟩ := Option.isSome_iff_exists.mp
          (addRowViewModel_isSome fm (show entry.Dated from stamped.dated)
            controller.chatViewModel.sectionViewModels)
        have addedRow : addRowViewModel fm (receivedRow accountId sender message)
            controller.chatViewModel.sectionViewModels = some sectionViewModels := added
        simp only [receiveMessage, notFound, account, addedRow, Option.bind_eq_bind,
          Option.bind_some, Bool.false_eq_true, if_false]
        exact ih following true

/-- The three outcomes of a snapshot: the first one is dropped, some are passed
over, and of the others the listener shows what it receives. -/
theorem listenerCompletion_eq_some {messageChanges : Option (List Message)}
    {error : Option NSError} {controller next : ChatController}
    (completed : listenerCompletion fm share messageChanges error controller = some next) :
    (controller.didStart = false ∧ next = { controller with didStart := true }) ∨
      (controller.didStart = true ∧
        (error.isSome ∨ messageChanges = none ∨ share.getAccountId = none) ∧ next = controller) ∨
      (controller.didStart = true ∧ error = none ∧ share.getAccountId.isSome ∧
        ∃ batch new sectionViewModels, messageChanges = some batch ∧
          received controller.messages batch = some new ∧
          appendRows fm (new.map (builtEntry share)) controller.chatViewModel.sectionViewModels =
            some sectionViewModels ∧
          next = { controller with
            messages := controller.messages.map (· ++ new)
            chatViewModel := { controller.chatViewModel with
              sectionViewModels
              haveAddMessage := !new.isEmpty } }) := by
  unfold listenerCompletion at completed
  split at completed
  · next first =>
    cases completed
    exact .inl ⟨first, rfl⟩
  · next started =>
    rw [Bool.not_eq_false] at started
    cases error with
    | some error =>
        cases completed
        exact .inr (.inl ⟨started, .inl rfl, rfl⟩)
    | none =>
        cases messageChanges with
        | none =>
            cases completed
            exact .inr (.inl ⟨started, .inr (.inl rfl), rfl⟩)
        | some batch =>
            cases signedIn : share.getAccountId with
            | none =>
                rw [signedIn] at completed
                cases completed
                exact .inr (.inl ⟨started, .inr (.inr rfl), rfl⟩)
            | some accountId =>
                rw [signedIn] at completed
                simp only [Option.bind_eq_bind, Option.bind_eq_some_iff] at completed
                obtain ⟨sorted, isSorted, ⟨looped, added⟩, isLooped, completed⟩ := completed
                obtain ⟨new, sectionViewModels, taken, appended, rfl, rfl⟩ :=
                  foldlM_receiveMessage signedIn isLooped
                cases completed
                refine .inr (.inr ⟨started, rfl, rfl, batch, new, sectionViewModels, rfl, ?_,
                  appended, ?_⟩)
                · rw [received, isSorted, Option.bind_some, taken]
                · rw [Bool.false_or]

/-- The listener traps only on a batch it listens to and does not get through. -/
theorem listenerCompletion_isSome_iff {batch : List Message} {controller : ChatController} :
    (listenerCompletion fm share (some batch) none controller).isSome ↔
      (controller.didStart = true → share.getAccountId.isSome →
        (received controller.messages batch).isSome) := by
  constructor
  · intro done started signedIn
    obtain ⟨next, completed⟩ := Option.isSome_iff_exists.mp done
    rcases listenerCompletion_eq_some completed with
      ⟨first, -⟩ | ⟨-, failed | nothing | signedOut, -⟩ | ⟨-, -, -, _, new, _, whole, taken, -, -⟩
    · rw [first] at started
      cases started
    · cases failed
    · cases nothing
    · rw [signedOut] at signedIn
      cases signedIn
    · cases whole
      exact Option.isSome_of_mem taken
  · intro gets
    unfold listenerCompletion
    split
    · rfl
    · next started =>
      rw [Bool.not_eq_false] at started
      cases signedIn : share.getAccountId with
      | none => rfl
      | some accountId =>
          obtain ⟨new, taken⟩ := Option.isSome_iff_exists.mp
            (gets started (Option.isSome_of_mem signedIn))
          obtain ⟨sorted, isSorted, taken⟩ := Option.bind_eq_some_iff.mp taken
          obtain ⟨looped, isLooped⟩ := Option.isSome_iff_exists.mp
            (foldlM_receiveMessage_isSome fm accountId taken false)
          simp only [isSorted, isLooped, Option.bind_eq_bind, Option.bind_some]
          rfl

end Listener

end MovieFun
