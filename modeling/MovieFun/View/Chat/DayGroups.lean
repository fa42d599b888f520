import MovieFun.View.Chat.Chronology

/-!
# The groups of a fetch

`createGroupMessage` files messages under the start of their day, lists the files by that
start and sorts each of them. Whatever the order of the messages, the groups are the days in
their order, and one after another they are the dated messages sorted by date
(`partitionsByDay_createGroupMessage`).
-/

namespace MovieFun

open ChatController Gregorian

/-- The groups are the days of the dated messages, in order, each day in order. -/
structure PartitionsByDay (zone : TimeZone) (messages : List Message)
    (groups : List (List Message)) : Prop where
  nonempty : ∀ group ∈ groups, group ≠ []
  oneDay : ∀ group ∈ groups, ∃ day, ∀ message ∈ group,
    Utils.stringFromDate (formatter zone) Utils.YYYYMMDD message.sendDate = some day
  increasing : groups.Pairwise fun first second => ∀ mess1 ∈ first, ∀ mess2 ∈ second,
    ∀ date1 ∈ mess1.sendDate, ∀ date2 ∈ mess2.sendDate, dayNumber zone date1 < dayNumber zone date2
  ordered : ∀ group ∈ groups, group.Pairwise Message.NoLater
  perm : groups.flatten.Perm (messages.filter fun message => message.sendDate.isSome)
  sorted : groups.flatten.Pairwise Message.NoLater

variable {zone : TimeZone} {message : Message}

/-- The key of a message is the start of its day. -/
theorem dayKey_of_sendDate {sendDate : Date} (sent : message.sendDate = some sendDate) :
    dayKey (formatter zone) message =
      some (instant zone (dayNumber zone sendDate) 0).timeIntervalSince1970 := by
  have start : (formatter zone).dayStart sendDate = some _ := dayStart_eq zone sendDate
  simp only [dayKey, sent, Option.bind_eq_bind, Option.bind_some]
  exact congrArg (Option.bind · _) start

/-- Exactly the messages with a date are filed. -/
theorem dayKey_isSome_iff :
    (dayKey (formatter zone) message).isSome ↔ message.sendDate.isSome := by
  refine ⟨sendDate_of_dayKey, fun dated => ?_⟩
  obtain ⟨sendDate, sent⟩ := Option.isSome_iff_exists.mp dated
  rw [dayKey_of_sendDate sent]
  rfl

/-- Keys are in the order of the days. -/
theorem dayNumber_lt_of_dayKey {mess1 mess2 : Message} {date1 date2 : Date}
    {key1 key2 : TimeInterval} (sent1 : mess1.sendDate = some date1)
    (sent2 : mess2.sendDate = some date2) (keyed1 : dayKey (formatter zone) mess1 = some key1)
    (keyed2 : dayKey (formatter zone) mess2 = some key2) (less : key1 < key2) :
    dayNumber zone date1 < dayNumber zone date2 := by
  rw [dayKey_of_sendDate sent1, Option.some.injEq] at keyed1
  rw [dayKey_of_sendDate sent2, Option.some.injEq] at keyed2
  subst keyed1 keyed2
  by_contra reversed
  exact absurd less (not_lt.mpr ((instant_le_iff zone).mpr (not_lt.mp reversed)))

/-- Messages of one key have the same text of their day. -/
theorem day_eq_of_dayKey {mess1 mess2 : Message} {key : TimeInterval}
    (keyed1 : dayKey (formatter zone) mess1 = some key)
    (keyed2 : dayKey (formatter zone) mess2 = some key) :
    Utils.stringFromDate (formatter zone) Utils.YYYYMMDD mess1.sendDate =
      Utils.stringFromDate (formatter zone) Utils.YYYYMMDD mess2.sendDate := by
  obtain ⟨date1, start1, sent1, parsed1, rfl⟩ := dayKey_eq_some keyed1
  obtain ⟨date2, start2, sent2, parsed2, same⟩ := dayKey_eq_some keyed2
  have sameStart : start2 = start1 := congrArg Date.mk same
  rw [sent1, sent2]
  exact congrArg some ((dayLaws zone).injective _ _ _ parsed1 (sameStart ▸ parsed2))

/-- **The groups of a fetch.** For messages in any order, the groups are not empty, each is of
one day and in the order of the dates, the days increase, and together the groups are the
messages with a date, sorted. -/
theorem partitionsByDay_createGroupMessage (zone : TimeZone) (messages : List Message) :
    PartitionsByDay zone messages (createGroupMessage (formatter zone) messages) where
  nonempty group inside := (dated_of_mem_createGroupMessage inside).1
  oneDay group inside := by
    obtain ⟨key, keyed⟩ := Bucket.key_eq_of_mem_bucket _ _ inside
    obtain ⟨first, member⟩ := List.exists_mem_of_ne_nil group
      (dated_of_mem_createGroupMessage inside).1
    obtain ⟨sendDate, sent⟩ := Option.isSome_iff_exists.mp
      ((dated_of_mem_createGroupMessage inside).2 first member)
    refine ⟨(formatter zone).dayString sendDate, fun message other => ?_⟩
    rw [day_eq_of_dayKey (keyed message other) (keyed first member), sent]
    rfl
  increasing := by
    apply (Bucket.buckets_key_strict _ _ messages).imp
    intro first second apart mess1 inFirst mess2 inSecond date1 sent1 date2 sent2
    obtain ⟨key1, key2, keyed1, keyed2, less⟩ := apart mess1 inFirst mess2 inSecond
    exact dayNumber_lt_of_dayKey sent1 sent2 keyed1 keyed2 less
  ordered group inside := Bucket.bucket_sorted _ _ inside
  perm := by
    refine (Bucket.flatten_buckets_perm _ _ messages).trans (List.Perm.of_eq ?_)
    exact List.filter_congr fun message _ => Bool.eq_iff_iff.mpr dayKey_isSome_iff
  sorted := shownMessages_sorted (dayLaws zone) messages

end MovieFun
