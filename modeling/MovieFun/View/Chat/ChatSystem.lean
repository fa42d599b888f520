import MovieFun.Foundation.Run
import MovieFun.View.Chat.ChatController

/-!
# The chat screen as an event system

One controller, the requests it has outstanding, and the events that reach it:
calls of the screen and completions of its requests, in any order the requests
permit. A completion is possible only while its request is outstanding, and the
id of a document created by a send was used by no earlier send. `handle` is what
the code does on an event, with `none` for a trap.
-/

namespace MovieFun

/-- How far the chain of completions of a send has come. -/
inductive SendStage
  | addText
  | addPicture
  | fetchImage
  | putImage
  | done
deriving DecidableEq, Repr

/-- A message sent from this device: the document its send creates, and the
message its completions captured. -/
structure ChatSend where
  documentID : String
  message : Message
  stage : SendStage
deriving DecidableEq, Repr

/-- A chat with its fetches and listeners, and the messages on their way from the device. -/
structure ChatSystem where
  controller : ChatController
  fetches : Nat := 0
  listeners : Nat := 0
  sends : List ChatSend := []
deriving DecidableEq, Repr

/-- What can reach the chat screen. `share` is the account service at that
moment and `now` the date. -/
inductive ChatEvent
  | start
  | fetchReply (share : AccountService) (messages : Option (List Message))
      (error : Option NSError)
  | listenerReply (share : AccountService) (messageChanges : Option (List Message))
      (error : Option NSError)
  | addMessage (share : AccountService) (now : Date) (text : String) (documentID : String)
  | addMessageImage (share : AccountService) (now : Date) (asset : PHAsset)
      (fullSizeImageURL : Option String) (documentID : String)
  | addDocumentReply (documentID : String) (error : Option NSError)
  | fetchImageReply (documentID : String) (hasData : Bool)
  | putImageReply (documentID : String) (succeeded : Bool)
deriving DecidableEq, Repr

namespace ChatSystem

variable (fm : DateFormatter)

/-- The chat of a movie before anything happened. -/
def initial (movieId : Option String) : ChatSystem where
  controller := ChatController.initial movieId

/-- The send that creates a document. -/
def send? (system : ChatSystem) (documentID : String) : Option ChatSend :=
  system.sends.find? fun send => send.documentID = documentID

/-- The stage of the send that creates a document. -/
def stage? (system : ChatSystem) (documentID : String) : Option SendStage :=
  (system.send? documentID).map ChatSend.stage

/-- The message with the id is at the given stage from now on. -/
def setStage (documentID : String) (stage : SendStage) (system : ChatSystem) : ChatSystem :=
  { system with
    sends := system.sends.map fun send =>
      if send.documentID = documentID then { send with stage } else send }

/-- A reply comes to what is awaited, and a new message gets a new id. -/
def enabled (system : ChatSystem) : ChatEvent → Bool
  | .start => true
  | .fetchReply .. => 0 < system.fetches
  | .listenerReply .. => 0 < system.listeners
  | .addMessage _ _ _ documentID => system.send? documentID = none
  | .addMessageImage _ _ _ _ documentID => system.send? documentID = none
  | .addDocumentReply documentID _ =>
      system.stage? documentID = some .addText ∨ system.stage? documentID = some .addPicture
  | .fetchImageReply documentID _ => system.stage? documentID = some .fetchImage
  | .putImageReply documentID _ => system.stage? documentID = some .putImage

/-- A send has ended: its row shows how, and nothing more of it will complete. -/
def finish (documentID : String) (success : Bool) (system : ChatSystem) : ChatSystem :=
  setStage documentID .done
    { system with controller := system.controller.setSuccess documentID success }

/-- Show an own message and, in the chat of a movie, send it. -/
def sendMessage (now : Date) (message : Message) (phAsset : Option PHAsset)
    (documentID : String) (stage : SendStage) (system : ChatSystem) : Option ChatSystem :=
  match system.controller.chatViewModel.movieId with
  | none => do
      let controller ←
        ChatController.showOwnMessage fm message phAsset none system.controller
      return { system with controller }
  | some _ => do
      let controller ←
        ChatController.showOwnMessage fm message phAsset (some documentID) system.controller
      let _ ← ChatService.addChatMessage now message
      return { system with
        controller
        sends := system.sends ++ [{ documentID, message, stage }] }

/-- What an event does to the chat, unless it crashes. -/
def handle (system : ChatSystem) : ChatEvent → Option ChatSystem
  | .start =>
      let fetches := match system.controller.chatViewModel.movieId with
        | none => system.fetches
        | some _ => system.fetches + 1
      some { system with controller := system.controller.start, fetches }
  | .fetchReply share messages error => do
      let controller ←
        ChatController.fetchCompletion fm share messages error system.controller
      return { system with
        controller
        fetches := system.fetches - 1
        listeners := system.listeners + 1 }
  | .listenerReply share messageChanges error => do
      let controller ←
        ChatController.listenerCompletion fm share messageChanges error system.controller
      return { system with controller }
  | .addMessage share now text documentID => do
      let message ← ChatController.textMessage fm share now text
      sendMessage fm now message none documentID .addText system
  | .addMessageImage share now asset fullSizeImageURL documentID =>
      match fullSizeImageURL.bind Utils.getFileName with
      | none => some system
      | some fileName => do
          let message ← ChatController.imageMessage fm share now fileName
          sendMessage fm now message (some asset) documentID .addPicture system
  | .addDocumentReply documentID error =>
      match error, system.stage? documentID with
      | none, some .addText => some (system.finish documentID true)
      | none, some .addPicture => some (system.setStage documentID .fetchImage)
      | _, _ => some (system.finish documentID false)
  | .fetchImageReply documentID hasData =>
      if hasData then some (system.setStage documentID .putImage)
      else some (system.finish documentID false)
  | .putImageReply documentID succeeded =>
      if succeeded then
        match system.send? documentID with
        | none => some (system.finish documentID true)
        | some send => do
            let controller ← system.controller.addAsset send.message
            return { system with controller }.finish documentID true
      else some (system.finish documentID false)

/-- The chat after an event that can happen. -/
def step (system : ChatSystem) (event : ChatEvent) : Option ChatSystem :=
  if system.enabled event then handle fm system event else none

/-- The state after a list of events, from a fresh chat screen. -/
def run (movieId : Option String) (events : List ChatEvent) : Option ChatSystem :=
  EventRun.runFrom (step fm) (initial movieId) events

variable {fm}

theorem run_append (movieId : Option String) (first second : List ChatEvent) :
    run fm movieId (first ++ second) =
      (run fm movieId first).bind fun middle => EventRun.runFrom (step fm) middle second :=
  EventRun.runFrom_append (step fm) (initial movieId) first second

theorem step_eq_some {system next : ChatSystem} {event : ChatEvent}
    (taken : step fm system event = some next) :
    system.enabled event ∧ handle fm system event = some next := by
  unfold step at taken
  split at taken
  · next possible => exact ⟨possible, taken⟩
  · cases taken

end ChatSystem

end MovieFun
