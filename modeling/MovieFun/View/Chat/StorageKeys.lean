import MovieFun.Helper.FileNames
import MovieFun.Network.SendingOrder
import MovieFun.View.Chat.ChatController

/-!
# The keys of pictures

The picture of a message is stored and cached under the account id and the image name, which is
the file name, a hyphen and the seconds of the date of the message. File name and date can be
read off the key. So two pictures of an account share a key exactly when they have one file name
and one date, and the date forgets the half of the day (`keysApart_iff`).
-/

namespace MovieFun

open ChatController Gregorian

/-- The path under which the picture of a message is stored, and the key in the cache. -/
def storageKey (message : Message) : Option String := do
  let accountId ← message.accountId
  let imageName ← message.imageName
  return accountId ++ "/" ++ imageName

/-- Two pictures of an account have image names and keys of their own. -/
def KeysApart (fm : DateFormatter) (share1 share2 : AccountService) (now1 now2 : Date)
    (fileName1 fileName2 : String) : Prop :=
  ∃ message1 message2, imageMessage fm share1 now1 fileName1 = some message1 ∧
    imageMessage fm share2 now2 fileName2 = some message2 ∧
    message1.imageName ≠ message2.imageName ∧
    (storageKey message1).isSome ∧ storageKey message1 ≠ storageKey message2

/-- Two instants of one day are twelve hours apart, in whole seconds. -/
def TwelveHoursApart (zone : TimeZone) (date1 date2 : Date) : Prop :=
  dayNumber zone date1 = dayNumber zone date2 ∧
    (secondOfDay zone date2 = secondOfDay zone date1 + 43200 ∨
      secondOfDay zone date1 = secondOfDay zone date2 + 43200)

section Text

/-- The last separator of a text parts it in one way. -/
theorem append_separator_inj {α : Type*} {separator : α} {front1 front2 back1 back2 : List α}
    (last1 : separator ∉ back1) (last2 : separator ∉ back2)
    (same : front1 ++ separator :: back1 = front2 ++ separator :: back2) :
    front1 = front2 ∧ back1 = back2 := by
  rcases List.append_eq_append_iff.mp same with ⟨between, whole, rest⟩ | ⟨between, whole, rest⟩
  · cases between with
    | nil =>
        rw [List.append_nil] at whole
        rw [List.nil_append, List.cons.injEq] at rest
        exact ⟨whole.symm, rest.2⟩
    | cons a between =>
        rw [List.cons_append, List.cons.injEq] at rest
        refine absurd ?_ last1
        rw [rest.2]
        exact List.mem_append_right between List.mem_cons_self
  · cases between with
    | nil =>
        rw [List.append_nil] at whole
        rw [List.nil_append, List.cons.injEq] at rest
        exact ⟨whole, rest.2.symm⟩
    | cons a between =>
        rw [List.cons_append, List.cons.injEq] at rest
        refine absurd ?_ last2
        rw [rest.2]
        exact List.mem_append_right between List.mem_cons_self

/-- The sign of a number of seconds, in front of its digits. -/
def signText (seconds : Int) : List Char := if seconds < 0 then ['-'] else []

/-- The digits of a number of seconds, with the one decimal of a whole number. -/
def digitText (seconds : Int) : List Char := Nat.toDigits 10 seconds.natAbs ++ ['.', '0']

/-- The text of a whole number of seconds. -/
theorem description_seconds (seconds : Int) :
    (TimeInterval.description (seconds * 1000000000)).toList =
      signText seconds ++ digitText seconds := by
  have whole : (seconds * 1000000000).natAbs = seconds.natAbs * 1000000000 :=
    Int.natAbs_mul seconds 1000000000
  have sign : seconds * 1000000000 < 0 ↔ seconds < 0 := by omega
  rw [TimeInterval.description, whole]
  rw [Nat.mul_div_cancel _ (by decide), Nat.mul_mod_left, String.toList_ofList]
  simp only [sign]
  rw [signText, digitText, List.append_assoc]
  rfl

/-- Different numbers have different digits. -/
theorem toDigits_injective : Function.Injective (Nat.toDigits 10) := by
  intro first second same
  rw [← Nat.ofDigitChars_ten_toDigits (n := first), same, Nat.ofDigitChars_ten_toDigits]

/-- A number that is written without its sign has no hyphen. -/
theorem hyphen_notMem_digitText (seconds : Int) : '-' ∉ digitText seconds := by
  intro member
  rcases List.mem_append.mp member with digit | decimals
  · exact absurd (Nat.isDigit_of_mem_toDigits (by decide) (by decide) digit) (by decide)
  · exact absurd decimals (by decide)

/-- Numbers with the same digits differ in their sign at most. -/
theorem natAbs_inj_of_digitText {seconds1 seconds2 : Int}
    (same : digitText seconds1 = digitText seconds2) : seconds1.natAbs = seconds2.natAbs :=
  toDigits_injective (List.append_cancel_right same)

/-- A sign may be read as the end of what is before the separator. -/
theorem separator_signText (seconds : Int) (text : List Char) :
    '-' :: (signText seconds ++ text) = signText seconds ++ '-' :: text := by
  unfold signText
  split <;> rfl

/-- A file name is not another one with a hyphen. -/
theorem ne_append_hyphen {fileName : List Char}
    (ends : ∃ front last, fileName = front ++ [last] ∧ Utils.isWordCharacter last = true)
    (other : List Char) : fileName ≠ other ++ ['-'] := by
  rintro rfl
  obtain ⟨front, last, same, word⟩ := ends
  have isHyphen : ['-'] = [last] := List.append_inj_right' same rfl
  cases isHyphen
  exact absurd word (by decide)

/-- An image name determines its file name and its seconds. -/
theorem imageName_inj {fileName1 fileName2 : List Char} {seconds1 seconds2 : Int}
    (ends1 : ∃ front last, fileName1 = front ++ [last] ∧ Utils.isWordCharacter last = true)
    (ends2 : ∃ front last, fileName2 = front ++ [last] ∧ Utils.isWordCharacter last = true)
    (same : fileName1 ++ '-' :: (signText seconds1 ++ digitText seconds1) =
      fileName2 ++ '-' :: (signText seconds2 ++ digitText seconds2)) :
    fileName1 = fileName2 ∧ seconds1 = seconds2 := by
  rw [separator_signText, separator_signText, ← List.append_assoc, ← List.append_assoc] at same
  obtain ⟨names, digits⟩ := append_separator_inj (hyphen_notMem_digitText seconds1)
    (hyphen_notMem_digitText seconds2) same
  have sizes := natAbs_inj_of_digitText digits
  -- a sign on one side only would make one of the names end with a hyphen
  unfold signText at names
  split at names <;> split at names
  · exact ⟨List.append_cancel_right names, by omega⟩
  · rw [List.append_nil] at names
    exact absurd names.symm (ne_append_hyphen ends2 fileName1)
  · rw [List.append_nil] at names
    exact absurd names (ne_append_hyphen ends1 fileName2)
  · rw [List.append_nil, List.append_nil] at names
    exact ⟨names, by omega⟩

end Text

section Keys

variable {zone : TimeZone} {now1 now2 : Date}

/-- The seconds of the stamp of an instant. -/
def stampSeconds (zone : TimeZone) (now : Date) : Int :=
  (dayNumber zone now - referenceDay) * 86400 + (secondOfDay zone now % 43200 : Nat) -
    zone.secondsFromGMT

/-- The message of a picture, with its image name. -/
theorem imageMessage_eq (zone : TimeZone) (share : AccountService) (now : Date)
    (fileName : String) : ∃ message imageName,
    imageMessage (formatter zone) share now fileName = some message ∧
      message.accountId = share.getAccountId ∧ message.imageName = some imageName ∧
      imageName.toList = fileName.toList ++
        '-' :: (signText (stampSeconds zone now) ++ digitText (stampSeconds zone now)) := by
  have cut := getCurrentDate_eq zone now
  refine ⟨_, _, by rw [imageMessage, cut]; rfl, rfl, rfl, ?_⟩
  have stamp : TimeInterval.description (Date.timeIntervalSince1970
      (instant zone (dayNumber zone now) (secondOfDay zone now % 43200))) =
        TimeInterval.description (stampSeconds zone now * 1000000000) := rfl
  rw [String.toList_append, String.toList_append, List.append_assoc, stamp, description_seconds]
  rfl

/-- Stamps a second apart are the same exactly for instants twelve hours apart. -/
theorem stampSeconds_eq_iff (apart : 1000000000 ≤ (now1.nanoseconds - now2.nanoseconds).natAbs) :
    stampSeconds zone now1 = stampSeconds zone now2 ↔ TwelveHoursApart zone now1 now2 := by
  simp only [stampSeconds, TwelveHoursApart, dayNumber, secondOfDay, localSeconds]
  omega

end Keys

/-- **The keys of pictures.** Two pictures that an account sends at least a second apart, under
names that `getFileName` returned, have keys of their own unless they have one name and are sent
twelve hours apart on one day. -/
theorem keysApart_iff (zone : TimeZone) {share1 share2 : AccountService} {accountId : String}
    (session1 : share1.getAccountId = some accountId)
    (session2 : share2.getAccountId = some accountId) {url1 url2 fileName1 fileName2 : String}
    (named1 : Utils.getFileName url1 = some fileName1)
    (named2 : Utils.getFileName url2 = some fileName2) {now1 now2 : Date}
    (apart : 1000000000 ≤ (now1.nanoseconds - now2.nanoseconds).natAbs) :
    KeysApart (formatter zone) share1 share2 now1 now2 fileName1 fileName2 ↔
      ¬ (fileName1 = fileName2 ∧ TwelveHoursApart zone now1 now2) := by
  obtain ⟨message1, imageName1, built1, own1, isName1, text1⟩ :=
    imageMessage_eq zone share1 now1 fileName1
  obtain ⟨message2, imageName2, built2, own2, isName2, text2⟩ :=
    imageMessage_eq zone share2 now2 fileName2
  have names : imageName1 = imageName2 ↔
      fileName1 = fileName2 ∧ TwelveHoursApart zone now1 now2 := by
    rw [← stampSeconds_eq_iff apart, ← String.toList_inj, text1, text2]
    constructor
    · intro same
      obtain ⟨name, seconds⟩ := imageName_inj (last_of_getFileName named1)
        (last_of_getFileName named2) same
      exact ⟨String.toList_inj.mp name, seconds⟩
    · rintro ⟨rfl, seconds⟩
      rw [seconds]
  have key1 : storageKey message1 = some (accountId ++ "/" ++ imageName1) := by
    rw [storageKey, own1, session1, isName1]
    rfl
  have key2 : storageKey message2 = some (accountId ++ "/" ++ imageName2) := by
    rw [storageKey, own2, session2, isName2]
    rfl
  have keys : storageKey message1 = storageKey message2 ↔ imageName1 = imageName2 := by
    rw [key1, key2, Option.some.injEq, ← String.toList_inj, String.toList_append,
      String.toList_append (s := accountId ++ "/"), List.append_cancel_left_eq, String.toList_inj]
  rw [← names]
  constructor
  · rintro ⟨_, _, other1, other2, different, -⟩
    rw [built1] at other1
    rw [built2] at other2
    cases other1
    cases other2
    rw [isName1, isName2] at different
    exact fun same => different (congrArg some same)
  · intro different
    refine ⟨message1, message2, built1, built2, ?_, Option.isSome_of_mem key1, mt keys.mp different⟩
    rw [isName1, isName2]
    exact fun same => different (Option.some.inj same)

/-- Two edited photos sent a minute apart have keys of their own. -/
theorem keysApart_editedPhotos :
    KeysApart (formatter ⟨0⟩) ⟨none, some "an"⟩ ⟨none, some "an"⟩ ⟨1566349200000000000⟩
      ⟨1566349260000000000⟩ "FullSizeRender.jpg" "FullSizeRender.jpg" := by
  have named : Utils.getFileName "file:///var/mobile/1/FullSizeRender.jpg" =
      some "FullSizeRender.jpg" := by decide +kernel
  refine (keysApart_iff ⟨0⟩ (rfl : AccountService.getAccountId ⟨none, some "an"⟩ = some "an") rfl
    named named (by decide)).mpr ?_
  rintro ⟨-, -, hours⟩
  revert hours
  decide

/-- An edited photo sent at one in the morning and another one sent at one in the afternoon share
their key. -/
theorem not_keysApart_editedPhotos :
    ¬ KeysApart (formatter ⟨0⟩) ⟨none, some "an"⟩ ⟨none, some "an"⟩ ⟨1566349200000000000⟩
      ⟨1566392400000000000⟩ "FullSizeRender.jpg" "FullSizeRender.jpg" := by
  have same : imageMessage (formatter ⟨0⟩) ⟨none, some "an"⟩ ⟨1566349200000000000⟩
      "FullSizeRender.jpg" = imageMessage (formatter ⟨0⟩) ⟨none, some "an"⟩
        ⟨1566392400000000000⟩ "FullSizeRender.jpg" := by
    rw [imageMessage, imageMessage, getCurrentDate_eq, getCurrentDate_eq]
    rfl
  rintro ⟨message1, message2, built1, built2, different, -⟩
  rw [same, built2, Option.some.injEq] at built1
  exact different (congrArg Message.imageName built1.symm)

end MovieFun
