import BluetoothStack.AvrcpRequests

/-!
# Transaction labels of an AVRCP device (profile/avrcp/device.cc, device.h)

A `Device` keeps `active_labels_`, the labels of messages in flight, and one
`Notification` tracker per event it notifies: whether the controller has
registered for it, and on which label. Every inbound message inserts its label;
`send_message` erases the label it answers on, `send_message_cb_` does not.
`RegisterVolumeChanged` and `SetVolume` pick the lowest label not in
`active_labels_` for their own commands.

The model follows the label bookkeeping of every path that touches it: the
registration handler, the media callbacks with `interim` true and false, the
update handlers, the volume registration and its responses. Two defects show:
an interim response sent with `send_message` (`UIDS_CHANGED`,
`AVAILABLE_PLAYERS_CHANGED`, `NOW_PLAYING_CONTENT_CHANGED`) erases the label of
a notification that stays registered, so a volume command can take it; and
`RejectNotification` overwrites a local array of pointers instead of the
trackers, so the notifications it rejects stay registered and are later
answered with `CHANGED` on their rejected labels.
-/

namespace BluetoothStack.AvrcpLabels

open ByteBuffer StepRun AvrcpRequests

/-- `MAX_TRANSACTION_LABEL`. -/
def maxTransactionLabel : ℕ := 0xF

/-- `Device::Notification`: whether the event is registered, and its label. -/
structure Notification where
  /-- `first`. -/
  registered : Bool
  /-- `second`. -/
  label : UInt8
  deriving DecidableEq, Repr

/-- `Notification(false, 0)`. -/
def Notification.none : Notification := ⟨false,0⟩

/-- The notification trackers of a `Device`. -/
inductive Tracker where
  | trackChanged
  | playStatusChanged
  | playPosChanged
  | nowPlayingChanged
  | addrPlayerChanged
  | availPlayersChanged
  | uidsChanged
  deriving DecidableEq, Repr

/-- The label state of a `Device`. -/
structure LabelState where
  /-- `active_labels_`, a `std::set`. -/
  activeLabels : List UInt8
  /-- The trackers `track_changed_` to `uids_changed_`. -/
  trackers : Tracker → Notification
  /-- `volume_interface_ != nullptr`. -/
  hasVolumeInterface : Bool

namespace LabelState

/-- `active_labels_.insert(label)`. -/
def insertLabel (s : LabelState) (label : UInt8) : LabelState :=
  {s with activeLabels := s.activeLabels.insert label}

/-- `active_labels_.erase(label)`. -/
def eraseLabel (s : LabelState) (label : UInt8) : LabelState :=
  {s with activeLabels := s.activeLabels.erase label}

/-- Assign a tracker. -/
def setTracker (s : LabelState) (tracker : Tracker) (n : Notification) : LabelState :=
  {s with trackers := fun t => if t=tracker then n else s.trackers t}

@[simp] theorem insertLabel_trackers (s : LabelState) (label : UInt8) :
    (s.insertLabel label).trackers=s.trackers := rfl

@[simp] theorem eraseLabel_trackers (s : LabelState) (label : UInt8) :
    (s.eraseLabel label).trackers=s.trackers := rfl

@[simp] theorem setTracker_activeLabels (s : LabelState) (tracker : Tracker) (n : Notification) :
    (s.setTracker tracker n).activeLabels=s.activeLabels := rfl

theorem setTracker_trackers (s : LabelState) (tracker t : Tracker) (n : Notification) :
    (s.setTracker tracker n).trackers t=if t=tracker then n else s.trackers t := rfl

end LabelState

/-- What the device sends, on which label. -/
inductive Sent where
  /-- An `INTERIM` notification response. -/
  | interim (label : UInt8) (tracker : Tracker)
  /-- A `CHANGED` notification response. -/
  | changed (label : UInt8) (tracker : Tracker)
  /-- A `RejectBuilder` response. -/
  | reject (label : UInt8)
  /-- The response to another command. -/
  | response (label : UInt8)
  /-- The Register Notification command for `VOLUME_CHANGED`. -/
  | registerVolume (label : UInt8)
  /-- The Set Absolute Volume command. -/
  | setAbsoluteVolume (label : UInt8)
  deriving DecidableEq, Repr

/-- The tracker an event registers, for the events `HandleNotification` accepts. -/
def trackerOf : Event → Option Tracker
  | .trackChanged => some .trackChanged
  | .playbackStatusChanged => some .playStatusChanged
  | .playbackPosChanged => some .playPosChanged
  | .nowPlayingContentChanged => some .nowPlayingChanged
  | .addressedPlayerChanged => some .addrPlayerChanged
  | .availablePlayersChanged => some .availPlayersChanged
  | .uidsChanged => some .uidsChanged
  | _ => none

/-- The lowest label below `MAX_TRANSACTION_LABEL` not in `active_labels_`: the
search loop of `RegisterVolumeChanged` and `SetVolume`. -/
def freeLabel (activeLabels : List UInt8) : Option UInt8 :=
  ((List.range maxTransactionLabel).map UInt8.ofNat).find? fun i => i ∉ activeLabels

/-- `Device::RegisterVolumeChanged`: with no free label it ends in `LOG(FATAL)`. -/
def registerVolumeChanged (s : LabelState) : Except Fault (LabelState×List Sent) :=
  if !s.hasVolumeInterface then .ok (s,[])
  else match freeLabel s.activeLabels with
    | some label => .ok (s.insertLabel label,[.registerVolume label])
    | none => .error .checkFailed

/-- `Device::SetVolume`: with no free label it sends on `MAX_TRANSACTION_LABEL`. -/
def setVolume (s : LabelState) : LabelState×List Sent :=
  match freeLabel s.activeLabels with
  | some label => (s.insertLabel label,[.setAbsoluteVolume label])
  | none => (s,[.setAbsoluteVolume (UInt8.ofNat maxTransactionLabel)])

/-- `Device::HandleNotification`, after `MessageReceived` has inserted the label:
`AVAILABLE_PLAYERS_CHANGED` and `UIDS_CHANGED` register and answer at once with
`send_message`; the other accepted events wait for a media callback; the rest
are rejected with `send_message`. -/
def handleNotification (s : LabelState) (label : UInt8) (event : Event) : LabelState×List Sent :=
  match trackerOf event with
  | some .availPlayersChanged =>
    ((s.setTracker .availPlayersChanged ⟨true,label⟩).eraseLabel label,[.interim label .availPlayersChanged])
  | some .uidsChanged => ((s.setTracker .uidsChanged ⟨true,label⟩).eraseLabel label,[.interim label .uidsChanged])
  | some _ => (s,[])
  | none => (s.eraseLabel label,[.reject label])

/-- The media callbacks with `interim` true: the tracker is registered, and the
interim response goes out with `send_message_cb_`, except that
`HandleNowPlayingNotificationResponse` uses `send_message`. -/
def interimResponse (s : LabelState) (label : UInt8) (tracker : Tracker) : LabelState×List Sent :=
  match tracker with
  | .nowPlayingChanged =>
    ((s.setTracker .nowPlayingChanged ⟨true,label⟩).eraseLabel label,[.interim label .nowPlayingChanged])
  | .availPlayersChanged | .uidsChanged => (s,[])
  | tracker => (s.setTracker tracker ⟨true,label⟩,[.interim label tracker])

/-- `Device::RejectNotification`: a reject on the label of each of four trackers,
which erases the label; the trackers themselves are not touched, since only the
local array `rejectNotification` is assigned. -/
def rejectNotification (s : LabelState) : LabelState×List Sent :=
  [Tracker.playStatusChanged,.trackChanged,.playPosChanged,.nowPlayingChanged].foldl
    (fun (acc : LabelState×List Sent) tracker =>
      let label := (acc.1.trackers tracker).label
      (acc.1.eraseLabel label,acc.2++[.reject label]))
    (s,[])

/-- The `Handle*Update` of a tracker and its media callback with `interim`
false; `changed` says whether the play status or position the callback
compares did change. -/
def update (s : LabelState) (tracker : Tracker) (changed : Bool) : LabelState×List Sent :=
  let n := s.trackers tracker
  if !n.registered then (s,[])
  else match tracker with
    | .playStatusChanged | .playPosChanged =>
      if !changed then (s,[])
      else ((s.eraseLabel n.label).setTracker tracker .none,[.changed n.label tracker])
    -- `HandleAvailablePlayerUpdate` tests `!first` after sending, which never holds here
    | .availPlayersChanged => (s,[.changed n.label tracker])
    | .addrPlayerChanged =>
      let (s',rejects) := rejectNotification ((s.eraseLabel n.label).setTracker tracker .none)
      (s',[.changed n.label tracker]++rejects)
    -- no update handler sends `UIDS_CHANGED`
    | .uidsChanged => (s,[])
    | tracker => ((s.eraseLabel n.label).setTracker tracker .none,[.changed n.label tracker])

/-- What the peer's response to the volume registration is. -/
inductive VolumeResponse where
  | rejected
  | interim
  | changed
  deriving DecidableEq, Repr

/-- `Device::HandleVolumeChanged`, after `MessageReceived` has inserted the label. -/
def handleVolumeChanged (s : LabelState) (label : UInt8) (response : VolumeResponse) :
    Except Fault (LabelState×List Sent) :=
  if !s.hasVolumeInterface then .ok (s,[])
  else match response with
    | .rejected => .ok ({s.eraseLabel label with hasVolumeInterface := false},[])
    | .interim => .ok (s,[])
    | .changed => registerVolumeChanged (s.eraseLabel label)

/-- The events that change the label state. -/
inductive Action where
  /-- A Register Notification command for `event` on `label`. -/
  | registerNotification (label : UInt8) (event : Event)
  /-- Any other command on `label`, in flight until `respond`. -/
  | command (label : UInt8)
  /-- The response to a command, with `send_message`. -/
  | respond (label : UInt8)
  /-- The media callback answering a registration, with `interim` true. -/
  | interimResponse (label : UInt8) (tracker : Tracker)
  /-- A media update and its callback, with `interim` false. -/
  | update (tracker : Tracker) (changed : Bool)
  /-- `RegisterVolumeChanged`, as the connection handler calls it. -/
  | registerVolumeChanged
  /-- `SetVolume`, called back by the volume interface. -/
  | setVolume
  /-- The peer's response to the volume registration, on `label`. -/
  | volumeResponse (label : UInt8) (response : VolumeResponse)
  /-- The peer's response to Set Absolute Volume, on `label`: nothing handles it. -/
  | setAbsoluteVolumeResponse (label : UInt8)
  deriving DecidableEq, Repr

/-- One step of the device's label bookkeeping. -/
def step (s : LabelState) : Action → Except Fault (LabelState×List Sent)
  | .registerNotification label event => .ok (handleNotification (s.insertLabel label) label event)
  | .command label => .ok (s.insertLabel label,[])
  | .respond label => .ok (s.eraseLabel label,[.response label])
  | .interimResponse label tracker => .ok (interimResponse s label tracker)
  | .update tracker changed => .ok (update s tracker changed)
  | .registerVolumeChanged => registerVolumeChanged s
  | .setVolume => .ok (setVolume s)
  | .volumeResponse label response => handleVolumeChanged (s.insertLabel label) label response
  | .setAbsoluteVolumeResponse label => .ok (s.insertLabel label,[])

/-- A device just connected with absolute volume: no label in flight, nothing registered. -/
def connected : LabelState := ⟨[],fun _ => .none,true⟩

/-! ### Labels picked and labels erased -/

/-- The label the search picks is below `MAX_TRANSACTION_LABEL` and not in flight. -/
theorem freeLabel_not_mem {activeLabels : List UInt8} {label : UInt8} (h : freeLabel activeLabels=some label) :
    label ∉ activeLabels ∧ label.toNat < maxTransactionLabel := by
  obtain ⟨hfind,hmem⟩ := List.find?_eq_some_iff_append.mp h |>.imp_right fun h => h
  have hin : label ∈ (List.range maxTransactionLabel).map UInt8.ofNat := List.mem_of_find?_eq_some h
  obtain ⟨i,hi,rfl⟩ := List.mem_map.mp hin
  refine ⟨by simpa using hfind,?_⟩
  rw [List.mem_range] at hi
  rw [UInt8.toNat_ofNat']
  unfold maxTransactionLabel at hi ⊢
  omega

/-- `active_labels_` is a set: the list has no duplicates. -/
def LabelState.Inv (s : LabelState) : Prop := s.activeLabels.Nodup

theorem LabelState.Inv.insertLabel {s : LabelState} (h : s.Inv) (label : UInt8) : (s.insertLabel label).Inv :=
  List.Nodup.insert h

theorem LabelState.Inv.eraseLabel {s : LabelState} (h : s.Inv) (label : UInt8) : (s.eraseLabel label).Inv :=
  List.Nodup.erase label h

theorem LabelState.Inv.setTracker {s : LabelState} (h : s.Inv) (tracker : Tracker) (n : Notification) :
    (s.setTracker tracker n).Inv := h

theorem rejectNotification_inv {s : LabelState} (h : s.Inv) : (rejectNotification s).1.Inv := by
  simp only [rejectNotification,List.foldl_cons,List.foldl_nil]
  exact (((h.eraseLabel _).eraseLabel _).eraseLabel _).eraseLabel _

/-- `RejectNotification` leaves every tracker as it was. -/
@[simp] theorem rejectNotification_trackers (s : LabelState) : (rejectNotification s).1.trackers=s.trackers := by
  simp [rejectNotification]

/-- `RejectNotification` sends a reject on the label of each of its four trackers. -/
theorem rejectNotification_sent (s : LabelState) :
    (rejectNotification s).2=[.reject (s.trackers .playStatusChanged).label,.reject (s.trackers .trackChanged).label,
      .reject (s.trackers .playPosChanged).label,.reject (s.trackers .nowPlayingChanged).label] := by
  simp [rejectNotification]

/-- Every step keeps `active_labels_` a set. -/
theorem step_inv {s s' : LabelState} {action : Action} {out : List Sent} (hs : s.Inv)
    (h : step s action=.ok (s',out)) : s'.Inv := by
  cases action with
  | registerNotification label event =>
    simp only [step,Except.ok.injEq] at h
    rw [show s'=(handleNotification (s.insertLabel label) label event).1 by rw [h]]
    unfold handleNotification
    split
    · exact ((hs.insertLabel label).setTracker _ _).eraseLabel label
    · exact ((hs.insertLabel label).setTracker _ _).eraseLabel label
    · exact hs.insertLabel label
    · exact (hs.insertLabel label).eraseLabel label
  | command label =>
    simp only [step,Except.ok.injEq,Prod.mk.injEq] at h
    exact h.1 ▸ hs.insertLabel label
  | respond label =>
    simp only [step,Except.ok.injEq,Prod.mk.injEq] at h
    exact h.1 ▸ hs.eraseLabel label
  | interimResponse label tracker =>
    simp only [step,Except.ok.injEq] at h
    rw [show s'=(interimResponse s label tracker).1 by rw [h]]
    unfold interimResponse
    split
    · exact (hs.setTracker _ _).eraseLabel label
    · exact hs
    · exact hs
    · exact hs.setTracker _ _
  | update tracker changed =>
    simp only [step,Except.ok.injEq] at h
    rw [show s'=(update s tracker changed).1 by rw [h]]
    -- each tracker's update keeps the state, or erases a label and resets the tracker,
    -- and the addressed player's then rejects four notifications
    cases tracker <;> simp only [update] <;> split_ifs
    all_goals first
      | exact hs
      | exact (hs.eraseLabel _).setTracker _ _
      | exact rejectNotification_inv ((hs.eraseLabel _).setTracker _ _)
  | registerVolumeChanged =>
    simp only [step,registerVolumeChanged] at h
    split at h
    · cases h
      exact hs
    · split at h
      · cases h
        exact hs.insertLabel _
      · cases h
  | setVolume =>
    simp only [step,Except.ok.injEq] at h
    rw [show s'=(setVolume s).1 by rw [h]]
    unfold setVolume
    split
    · exact hs.insertLabel _
    · exact hs
  | volumeResponse label response =>
    simp only [step,handleVolumeChanged] at h
    split at h
    · cases h
      exact hs.insertLabel label
    · split at h
      · cases h
        exact (hs.insertLabel label).eraseLabel label
      · cases h
        exact hs.insertLabel label
      · simp only [registerVolumeChanged] at h
        split at h
        · cases h
          exact (hs.insertLabel label).eraseLabel label
        · split at h
          · cases h
            exact ((hs.insertLabel label).eraseLabel label).insertLabel _
          · cases h
  | setAbsoluteVolumeResponse label =>
    simp only [step,Except.ok.injEq,Prod.mk.injEq] at h
    exact h.1 ▸ hs.insertLabel label

/-- A registration for `AVAILABLE_PLAYERS_CHANGED` or `UIDS_CHANGED` is answered
with `send_message`: the notification is registered on its label, and the label
is no longer in flight, so `RegisterVolumeChanged` and `SetVolume` may take it. -/
theorem registerNotification_frees_registered_label {s s' : LabelState} {label : UInt8} {event : Event}
    {tracker : Tracker} {out : List Sent} (hs : s.Inv)
    (himmediate : trackerOf event=some tracker) (htracker : tracker=.availPlayersChanged ∨ tracker=.uidsChanged)
    (h : step s (.registerNotification label event)=.ok (s',out)) :
    s'.trackers tracker=⟨true,label⟩ ∧ label ∉ s'.activeLabels := by
  simp only [step,Except.ok.injEq] at h
  rw [show s'=(handleNotification (s.insertLabel label) label event).1 by rw [h]]
  unfold handleNotification
  rcases htracker with rfl | rfl
  · rw [himmediate]
    exact ⟨by simp [LabelState.eraseLabel,LabelState.setTracker_trackers],
      List.Nodup.not_mem_erase (hs.insertLabel label)⟩
  · rw [himmediate]
    exact ⟨by simp [LabelState.eraseLabel,LabelState.setTracker_trackers],
      List.Nodup.not_mem_erase (hs.insertLabel label)⟩

/-- An addressed player change, from any state registered for it: the four
notifications `RejectNotification` rejects keep their trackers, registered or
not, while a reject goes out on each of their labels. -/
theorem update_addrPlayerChanged_keeps_rejected {s : LabelState} {changed : Bool}
    (hregistered : (s.trackers .addrPlayerChanged).registered=true) :
    (∀ t ∈ [Tracker.playStatusChanged,.trackChanged,.playPosChanged,.nowPlayingChanged],
        (update s .addrPlayerChanged changed).1.trackers t=s.trackers t) ∧
      (update s .addrPlayerChanged changed).2=
        [.changed (s.trackers .addrPlayerChanged).label .addrPlayerChanged,
          .reject (s.trackers .playStatusChanged).label,.reject (s.trackers .trackChanged).label,
          .reject (s.trackers .playPosChanged).label,.reject (s.trackers .nowPlayingChanged).label] := by
  simp only [update,hregistered,Bool.not_true,Bool.false_eq_true,if_false]
  refine ⟨fun t ht => ?_,?_⟩
  · simp only [List.mem_cons,List.not_mem_nil,or_false] at ht
    rw [rejectNotification_trackers,LabelState.setTracker_trackers]
    rcases ht with rfl | rfl | rfl | rfl <;> rfl
  · rw [rejectNotification_sent]
    simp [LabelState.setTracker_trackers]

/-- Every reachable state keeps `active_labels_` a set. -/
theorem runSteps_inv {s t : LabelState} {actions : List Action} {out : List Sent} (hs : s.Inv)
    (h : runSteps step s actions=.ok (t,out)) : t.Inv :=
  runSteps_invariant (fun _ _ _ _ hs hstep => step_inv hs hstep) hs h

/-! ### Two runs -/

/-- `UIDS_CHANGED` registered on label 0, then `SetVolume`. -/
def uidsThenSetVolume : List Action := [.registerNotification 0 .uidsChanged,.setVolume]

/-- Track changes registered on label 1 and addressed player changes on label 2,
both answered by the media interface; then the addressed player changes, and
then the track. -/
def rejectedThenChanged : List Action :=
  [.registerNotification 1 .trackChanged,.interimResponse 1 .trackChanged,
    .registerNotification 2 .addressedPlayerChanged,.interimResponse 2 .addrPlayerChanged,
    .update .addrPlayerChanged true,.update .trackChanged true]

/-- Both parts of the label discipline fail on runs from a freshly connected
device. After a `UIDS_CHANGED` registration on label 0, `SetVolume` sends its
command on label 0 while the notification is still registered on it. After an
addressed player change rejects the track changed notification on label 1, the
tracker is still registered, and the next track change is sent as `CHANGED`
on label 1. -/
theorem label_discipline_violated :
    (runSteps step connected uidsThenSetVolume).map (fun r => (r.1.trackers .uidsChanged,r.2))=
        .ok (⟨true,0⟩,[.interim 0 .uidsChanged,.setAbsoluteVolume 0]) ∧
      (runSteps step connected rejectedThenChanged).map (·.2)=
        .ok [.interim 1 .trackChanged,.interim 2 .addrPlayerChanged,.changed 2 .addrPlayerChanged,
          .reject 0,.reject 1,.reject 0,.reject 0,.changed 1 .trackChanged] :=
  ⟨rfl,rfl⟩

end BluetoothStack.AvrcpLabels
