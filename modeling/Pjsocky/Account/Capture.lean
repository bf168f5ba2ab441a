import Pjsocky.Account.Lifecycle

/-!
# The capture device of the account

The device is chosen in two places: `account.configure` resolves one for the account it adds,
and `device.set_video` patches the account there is. `Capture` puts beside the SIP side what
pjsua keeps as each account's configuration and the device of the last `device.set_video` that
succeeded. In every run of these commands the two places agree: the account's `vid_cap_dev` is
that device, or the first enumerated one that can capture.
-/

namespace Pjsocky

open Support

/-- `PJSOCKY_MAX_DEVICES`. -/
def maxDevices : Nat := 32

/-- The first of the devices that can capture. -/
def firstCapture (devices : List VidDevInfo) : Int :=
  ((devices.find? fun device => device.dir.encoding).map (·.id)).getD invalidDev

/-- What a request does to the configurations of pjsua's accounts. -/
def Action.onConfigs (configs : AccId → Option AccConfig) : Action → AccId → Option AccConfig
  | .accAdd config (some accId) => Function.update configs accId (some config)
  | .accModify accId config =>
      Function.update configs accId ((configs accId).map fun _ => config)
  | .accDel accId true => Function.update configs accId none
  | _ => configs

/-- The daemon's SIP side with the configurations of pjsua's accounts. -/
structure Capture where
  sip : Sip
  configs : AccId → Option AccConfig
  /-- The device of the last `device.set_video` that succeeded. -/
  last : Option Int

namespace Capture

def start : Capture := ⟨.start, fun _ => none, none⟩

/-- The device of a `device.set_video` that succeeds. -/
def selection (build : Build) (sip : Sip) : SipInput → Option Int
  | .line line outcomes =>
      match Daemon.executed build line with
      | some (.deviceSetVideo, params) =>
          if (sip.daemon.cmdDeviceSetVideo build outcomes params).1.status = .success then
            getIntMember build params "capture_id"
          else none
      | _ => none
  | _ => none

def step (build : Build) (capture : Capture) (input : SipInput) : Capture where
  sip := capture.sip.step build input
  configs := (capture.sip.requests build input).foldl Action.onConfigs capture.configs
  last := (selection build capture.sip input).or capture.last

/-- The state after a list of inputs. -/
abbrev run (build : Build) : Capture → List SipInput → Capture := Machine.run (step build)

/-- pjsua does what it is asked in one command: a pool is created, an account's configuration is
read and modified, the enumeration gives the first of these devices, and a new account has a
proper id. -/
structure Serves (devices : List VidDevInfo) (outcomes : Outcomes) : Prop where
  pool : outcomes.pool = true
  accConfig : ∃ config, outcomes.accConfig = .ok config
  accModify : outcomes.accModify = .success
  vidDevs : outcomes.vidDevs = .ok (devices.take maxDevices)
  accAdd : ∀ accId, outcomes.accAdd = .ok accId → accId ≠ invalidId

/-- The commands that choose the device. -/
def Chooses (fn : CmdFn) : Prop :=
  fn = .deviceSetVideo ∨ fn = .accountConfigure ∨ fn = .accountRemove

/-- A line with one of these commands, which pjsua serves; it has no info of
`PJMEDIA_VID_INVALID_DEV`. -/
def Served (build : Build) (devices : List VidDevInfo) : SipInput → Prop
  | .line line outcomes => Serves devices outcomes ∧
      ∃ fn params, Daemon.executed build line = some (fn, params) ∧ Chooses fn ∧
        (fn = .deviceSetVideo → getIntMember build params "capture_id" = some invalidDev →
          ∃ status, outcomes.vidDevInfo = .error status)
  | _ => False

/-- The device of every account is settled by what was selected last. -/
structure Settled (devices : List VidDevInfo) (capture : Capture) : Prop where
  selected : capture.sip.daemon.videoCapture = capture.last.getD invalidDev
  real : capture.last ≠ some invalidDev
  account : capture.sip.daemon.accId ≠ invalidId →
    capture.configs capture.sip.daemon.accId ≠ none
  device : ∀ accId config, capture.configs accId = some config →
    accId = capture.sip.daemon.accId ∧ accId ≠ invalidId ∧
      config.vidCapDev = capture.last.getD (firstCapture (devices.take maxDevices))

end Capture

/-! ## The functions -/

namespace Daemon

variable {outcomes : Outcomes} {daemon : Daemon} {devices : List VidDevInfo}

/-- `resolve_default_vid_cap_dev`, when the enumeration succeeds. -/
theorem resolveDefaultVidCapDev_spec (listed : outcomes.vidDevs = .ok devices) :
    ∃ added, (∀ action ∈ added, action = .vidEnumDevs) ∧
      daemon.resolveDefaultVidCapDev outcomes =
        (if daemon.videoCapture = invalidDev then firstCapture devices else daemon.videoCapture,
          { daemon with log := daemon.log ++ added }) := by
  unfold resolveDefaultVidCapDev
  by_cases unselected : daemon.videoCapture = invalidDev
  · refine ⟨[.vidEnumDevs], fun action member => List.mem_singleton.mp member, ?_⟩
    rw [if_neg (not_not.mpr unselected), if_pos unselected]
    simp only [deviceListVideo, listed, firstCapture]
    cases devices.find? fun device => device.dir.encoding with
    | none => rfl
    | some device => rfl
  · refine ⟨[], List.forall_mem_nil _, ?_⟩
    rw [if_pos unselected, if_neg unselected, List.append_nil]

/-- `pjsocky_device_set_video_capture` of a device that cannot capture. -/
theorem deviceSetVideoCapture_refused (captureId : Int)
    (refused : ∀ info, outcomes.vidDevInfo = .ok info → info.dir.encoding = false) :
    daemon.deviceSetVideoCapture outcomes captureId =
      (.einval, daemon.record (.vidDevGetInfo captureId)) := by
  unfold deviceSetVideoCapture
  cases read : outcomes.vidDevInfo with
  | error status => rfl
  | ok info =>
      dsimp only
      rw [refused info read]
      rfl

/-- And of one that can, when pjsua does what it is asked. -/
theorem deviceSetVideoCapture_selected (captureId : Int) {info : VidDevInfo} {config : AccConfig}
    (read : outcomes.vidDevInfo = .ok info) (captures : info.dir.encoding = true)
    (pool : outcomes.pool = true) (stored : outcomes.accConfig = .ok config)
    (modified : outcomes.accModify = .success) :
    daemon.deviceSetVideoCapture outcomes captureId =
      (.success, { daemon with
        videoCapture := captureId
        log := daemon.log ++ .vidDevGetInfo captureId ::
          if daemon.accId = invalidId then []
          else [.poolCreate, .accGetConfig daemon.accId,
            .accModify daemon.accId { config with vidCapDev := captureId },
            .accGetConfig daemon.accId] }) := by
  simp only [deviceSetVideoCapture, read, captures, modifyCaptureDev, pool, stored, modified]
  by_cases unconfigured : daemon.accId = invalidId
  · simp [record, unconfigured]
  · simp [record, unconfigured]

/-- `device.set_video` fails and asks at most for the info of the device, or selects one whose
info has the capture direction. -/
theorem cmdDeviceSetVideo_cases (build : Build) (outcomes : Outcomes) (params : Option JsonElem)
    (daemon : Daemon) :
    let result := daemon.cmdDeviceSetVideo build outcomes params
    (result.1.status ≠ .success ∧
      ∃ added, (∀ action ∈ added, ∃ device, action = .vidDevGetInfo device) ∧
        result.2 = { daemon with log := daemon.log ++ added }) ∨
    ∃ captureId info, getIntMember build params "capture_id" = some captureId ∧
      outcomes.vidDevInfo = .ok info ∧ info.dir.encoding = true ∧
      result = bareCmd (daemon.deviceSetVideoCapture outcomes captureId) := by
  have refusal : Status.einval ≠ .success := by decide
  unfold cmdDeviceSetVideo
  cases given : getIntMember build params "capture_id" with
  | none => exact .inl ⟨refusal, [], List.forall_mem_nil _, by rw [List.append_nil]⟩
  | some captureId =>
      by_cases refused : ∀ info, outcomes.vidDevInfo = .ok info → info.dir.encoding = false
      · apply Or.inl
        dsimp only
        rw [deviceSetVideoCapture_refused captureId refused]
        refine ⟨refusal, [.vidDevGetInfo captureId], fun action member => ?_, rfl⟩
        exact ⟨captureId, List.mem_singleton.mp member⟩
      · simp only [not_forall, Bool.not_eq_false] at refused
        obtain ⟨info, read, captures⟩ := refused
        exact .inr ⟨captureId, info, rfl, read, captures, rfl⟩

/-- `pjsocky_account_configure` without an account: pjsua is to add one with the device that was
selected or else the first that can capture. -/
theorem accountConfigure_resolves (sipUri registrarUri username password realm : Bytes)
    (listed : outcomes.vidDevs = .ok devices) (unconfigured : daemon.accId = invalidId) :
    ∃ asked config, (∀ action ∈ asked, action = .vidEnumDevs) ∧
      config.vidCapDev = (if daemon.videoCapture = invalidDev then firstCapture devices
        else daemon.videoCapture) ∧
      (daemon.accountConfigure outcomes sipUri registrarUri username password realm).2 =
        { daemon with
          registered := false
          accId := outcomes.accAdd.toOption.getD invalidId
          log := daemon.log ++ (asked ++ [.accAdd config outcomes.accAdd.toOption]) } := by
  obtain ⟨asked, questions, resolved⟩ :=
    @resolveDefaultVidCapDev_spec outcomes { daemon with registered := false } devices listed
  refine ⟨asked, ⟨sipUri, registrarUri, false, true, true,
    if daemon.videoCapture = invalidDev then firstCapture devices else daemon.videoCapture,
    [⟨realm, ascii "digest", username, credDataPlainPasswd, password⟩]⟩, questions, rfl, ?_⟩
  rw [accountConfigure, if_neg (not_not.mpr unconfigured), resolved]
  cases outcomes.accAdd with
  | error status => simp [record, Except.toOption, unconfigured]
  | ok accId => simp [record, Except.toOption]

/-- `account.configure` leaves what `pjsocky_account_configure` does, if it is called. -/
theorem cmdAccountConfigure_leaves (outcomes : Outcomes) (params : Option JsonElem)
    (daemon : Daemon) :
    (daemon.cmdAccountConfigure outcomes params).2 = daemon ∨
    ∃ sipUri registrarUri username password realm,
      (daemon.cmdAccountConfigure outcomes params).2 =
        (daemon.accountConfigure outcomes sipUri registrarUri username password realm).2 := by
  unfold cmdAccountConfigure
  split
  · rename_i sipUri registrarUri username password _ _ _ _
    refine .inr ⟨sipUri, registrarUri, username, password,
      (getStringMember params "realm").getD (ascii "*"), ?_⟩
    dsimp only
    split
    · rfl
    · rfl
  · exact .inl rfl

/-- `account.configure` changes nothing, or does that. -/
theorem cmdAccountConfigure_resolves (params : Option JsonElem)
    (listed : outcomes.vidDevs = .ok devices) :
    (daemon.cmdAccountConfigure outcomes params).2 = daemon ∨
    daemon.accId = invalidId ∧ ∃ asked config, (∀ action ∈ asked, action = .vidEnumDevs) ∧
      config.vidCapDev = (if daemon.videoCapture = invalidDev then firstCapture devices
        else daemon.videoCapture) ∧
      (daemon.cmdAccountConfigure outcomes params).2 =
        { daemon with
          registered := false
          accId := outcomes.accAdd.toOption.getD invalidId
          log := daemon.log ++ (asked ++ [.accAdd config outcomes.accAdd.toOption]) } := by
  obtain same | ⟨sipUri, registrarUri, username, password, realm, same⟩ :=
    cmdAccountConfigure_leaves outcomes params daemon
  · exact .inl same
  · rw [same]
    by_cases unconfigured : daemon.accId = invalidId
    · exact .inr ⟨unconfigured, accountConfigure_resolves _ _ _ _ _ listed unconfigured⟩
    · refine .inl ?_
      rw [accountConfigure, if_pos unconfigured]

/-- `account.remove` deletes the account or leaves it. -/
theorem cmdAccountRemove_leaves (outcomes : Outcomes) (daemon : Daemon) :
    (∃ added, (∀ action ∈ added, action = .accDel daemon.accId false) ∧
      (daemon.cmdAccountRemove outcomes).2 = { daemon with log := daemon.log ++ added }) ∨
    (daemon.cmdAccountRemove outcomes).2 =
      { daemon.record (.accDel daemon.accId true) with
        accId := invalidId, registered := false } := by
  unfold cmdAccountRemove accountRemove bareCmd
  split
  · exact .inl ⟨[], List.forall_mem_nil _, by rw [List.append_nil]⟩
  · split
    · exact .inl ⟨[], List.forall_mem_nil _, by rw [List.append_nil]⟩
    · dsimp only
      split
      · rename_i failed
        refine .inl ⟨[.accDel daemon.accId false], fun _ => List.mem_singleton.mp, ?_⟩
        rw [decide_eq_false failed]
        rfl
      · rename_i deleted
        rw [decide_eq_true (not_not.mp deleted)]
        exact .inr rfl

end Daemon

/-! ## One step -/

namespace Capture

variable {build : Build} {devices : List VidDevInfo} {capture : Capture} {input : SipInput}

@[simp] theorem step_sip (build : Build) (capture : Capture) (input : SipInput) :
    (capture.step build input).sip = capture.sip.step build input := rfl

theorem selection_other {line : Bytes} {outcomes : Outcomes} {fn : CmdFn}
    {params : Option JsonElem} (runs : Daemon.executed build line = some (fn, params))
    (other : fn ≠ .deviceSetVideo) (sip : Sip) :
    selection build sip (.line line outcomes) = none := by
  unfold selection
  dsimp only
  rw [runs]
  split
  · rename_i same
    cases same
    exact (other rfl).elim
  · rfl

theorem selection_setVideo {line : Bytes} {outcomes : Outcomes} {params : Option JsonElem}
    (runs : Daemon.executed build line = some (.deviceSetVideo, params)) (sip : Sip) :
    selection build sip (.line line outcomes) =
      if (sip.daemon.cmdDeviceSetVideo build outcomes params).1.status = .success then
        getIntMember build params "capture_id"
      else none := by
  simp only [selection, runs]

namespace Settled

theorem start : Settled devices start where
  selected := rfl
  real := nofun
  account unconfigured := (unconfigured rfl).elim
  device _ _ found := nomatch found

/-- A step that selects nothing keeps the device. -/
theorem unselected (settled : capture.Settled devices)
    (device : (capture.sip.step build input).daemon.videoCapture =
      capture.sip.daemon.videoCapture)
    (nothing : selection build capture.sip input = none) :
    (capture.step build input).last = capture.last ∧
      (capture.step build input).sip.daemon.videoCapture =
        (capture.step build input).last.getD invalidDev ∧
      (capture.step build input).last ≠ some invalidDev := by
  have last : (capture.step build input).last = capture.last := by
    rw [step, nothing]
    rfl
  refine ⟨last, ?_, ?_⟩
  · rw [step_sip, last, device]
    exact settled.selected
  · rw [last]
    exact settled.real

/-- A step that selects nothing and leaves the accounts as they are. -/
theorem kept (settled : capture.Settled devices) {added : List Action} {registered : Bool}
    (leaves : (capture.sip.step build input).daemon =
      { capture.sip.daemon with registered, log := capture.sip.daemon.log ++ added })
    (keep : ∀ action ∈ added, Action.onConfigs capture.configs action = capture.configs)
    (unselected : selection build capture.sip input = none) :
    (capture.step build input).Settled devices := by
  have configs : (capture.step build input).configs = capture.configs := by
    have grown := congrArg Daemon.log leaves
    rw [step, Sip.requests_eq grown]
    exact Machine.run_idle keep
  have account := congrArg Daemon.accId leaves
  have device := congrArg Daemon.videoCapture leaves
  obtain ⟨last, selected, real⟩ := settled.unselected device unselected
  refine ⟨selected, real, ?_, ?_⟩
  · rw [step_sip, configs, account]
    exact settled.account
  · rw [step_sip, configs, last, account]
    exact settled.device

/-- No account has a configuration when the daemon has none. -/
theorem unconfigured (settled : capture.Settled devices)
    (free : capture.sip.daemon.accId = invalidId) (accId : AccId) :
    capture.configs accId = none := by
  by_contra found
  obtain ⟨config, isConfig⟩ := Option.ne_none_iff_exists'.mp found
  obtain ⟨rfl, isId, -⟩ := settled.device accId config isConfig
  exact isId free

/-- A device is selected, and patched into the account there is. -/
theorem patched (settled : capture.Settled devices) {captureId : Int} (config : AccConfig)
    (grown : (capture.sip.step build input).daemon.log = capture.sip.daemon.log ++
      .vidDevGetInfo captureId :: if capture.sip.daemon.accId = invalidId then []
        else [.poolCreate, .accGetConfig capture.sip.daemon.accId,
          .accModify capture.sip.daemon.accId { config with vidCapDev := captureId },
          .accGetConfig capture.sip.daemon.accId])
    (device : (capture.sip.step build input).daemon.videoCapture = captureId)
    (account : (capture.sip.step build input).daemon.accId = capture.sip.daemon.accId)
    (selects : selection build capture.sip input = some captureId)
    (real : captureId ≠ invalidDev) : (capture.step build input).Settled devices := by
  have configs : (capture.step build input).configs =
      Function.update capture.configs capture.sip.daemon.accId
        ((capture.configs capture.sip.daemon.accId).map fun _ =>
          { config with vidCapDev := captureId }) := by
    rw [step, Sip.requests_eq grown]
    by_cases free : capture.sip.daemon.accId = invalidId
    · rw [if_pos free, settled.unconfigured free, Option.map_none,
        ← settled.unconfigured free capture.sip.daemon.accId, Function.update_eq_self]
      rfl
    · rw [if_neg free]
      rfl
  have last : (capture.step build input).last = some captureId := by
    rw [step, selects]
    rfl
  refine ⟨?_, ?_, ?_, ?_⟩
  · rw [step_sip, last]
    exact device
  · rw [last]
    exact fun invalid => real (Option.some.inj invalid)
  · rw [step_sip, account, configs, Function.update_self]
    intro isId
    simpa using settled.account isId
  · rw [step_sip, account, configs, last]
    intro accId found isFound
    by_cases own : accId = capture.sip.daemon.accId
    · subst own
      rw [Function.update_self] at isFound
      obtain ⟨old, isOld, rfl⟩ := Option.map_eq_some_iff.mp isFound
      exact ⟨rfl, (settled.device _ old isOld).2.1, rfl⟩
    · rw [Function.update_of_ne own] at isFound
      exact (own (settled.device accId found isFound).1).elim

/-- An account is added with the device that is settled. -/
theorem configured (settled : capture.Settled devices) {asked : List Action} {config : AccConfig}
    {accId : AccId} (free : capture.sip.daemon.accId = invalidId)
    (questions : ∀ action ∈ asked, action = .vidEnumDevs)
    (grown : (capture.sip.step build input).daemon.log =
      capture.sip.daemon.log ++ (asked ++ [.accAdd config (some accId)]))
    (device : (capture.sip.step build input).daemon.videoCapture =
      capture.sip.daemon.videoCapture)
    (account : (capture.sip.step build input).daemon.accId = accId) (isId : accId ≠ invalidId)
    (unselected : selection build capture.sip input = none)
    (resolved : config.vidCapDev = capture.last.getD (firstCapture (devices.take maxDevices))) :
    (capture.step build input).Settled devices := by
  have idle : asked.foldl Action.onConfigs capture.configs = capture.configs := by
    apply Machine.run_idle
    intro action member
    rw [questions action member]
    rfl
  have configs : (capture.step build input).configs =
      Function.update capture.configs accId (some config) := by
    rw [step, Sip.requests_eq grown, List.foldl_append, idle]
    rfl
  obtain ⟨last, selected, real⟩ := settled.unselected device unselected
  refine ⟨selected, real, ?_, ?_⟩
  · rw [step_sip, account, configs, Function.update_self]
    exact fun _ => Option.some_ne_none _
  · rw [step_sip, account, configs, last]
    intro other found isFound
    by_cases own : other = accId
    · subst own
      rw [Function.update_self] at isFound
      cases isFound
      exact ⟨rfl, isId, resolved⟩
    · rw [Function.update_of_ne own, settled.unconfigured free] at isFound
      cases isFound

/-- The account is deleted. -/
theorem removed (settled : capture.Settled devices)
    (grown : (capture.sip.step build input).daemon.log =
      capture.sip.daemon.log ++ [.accDel capture.sip.daemon.accId true])
    (device : (capture.sip.step build input).daemon.videoCapture =
      capture.sip.daemon.videoCapture)
    (account : (capture.sip.step build input).daemon.accId = invalidId)
    (unselected : selection build capture.sip input = none) :
    (capture.step build input).Settled devices := by
  have configs : (capture.step build input).configs =
      Function.update capture.configs capture.sip.daemon.accId none := by
    rw [step, Sip.requests_eq grown]
    rfl
  obtain ⟨last, selected, real⟩ := settled.unselected device unselected
  refine ⟨selected, real, ?_, ?_⟩
  · rw [step_sip, account]
    exact fun isId => (isId rfl).elim
  · rw [configs]
    intro other found isFound
    by_cases own : other = capture.sip.daemon.accId
    · rw [own, Function.update_self] at isFound
      cases isFound
    · rw [Function.update_of_ne own] at isFound
      exact (own (settled.device other found isFound).1).elim

variable {line : Bytes} {outcomes : Outcomes} {params : Option JsonElem}

theorem setVideo (settled : capture.Settled devices) (serves : Serves devices outcomes)
    (runs : Daemon.executed build line = some (.deviceSetVideo, params))
    (missing : getIntMember build params "capture_id" = some invalidDev →
      ∃ status, outcomes.vidDevInfo = .error status) :
    (capture.step build (.line line outcomes)).Settled devices := by
  have leaves : (capture.sip.step build (.line line outcomes)).daemon =
      (capture.sip.daemon.cmdDeviceSetVideo build outcomes params).2 := Sip.step_executed runs
  have selects := @selection_setVideo build line outcomes params runs capture.sip
  obtain ⟨failed, added, questions, same⟩ | ⟨captureId, info, given, read, captures, same⟩ :=
    Daemon.cmdDeviceSetVideo_cases build outcomes params capture.sip.daemon
  · rw [same] at leaves
    rw [if_neg failed] at selects
    refine settled.kept leaves (fun action member => ?_) selects
    obtain ⟨device, rfl⟩ := questions action member
    rfl
  · obtain ⟨config, stored⟩ := serves.accConfig
    have selected := @Daemon.deviceSetVideoCapture_selected outcomes capture.sip.daemon captureId
      info config read captures serves.pool stored serves.accModify
    have real : captureId ≠ invalidDev := by
      rintro rfl
      obtain ⟨status, unread⟩ := missing given
      rw [unread] at read
      cases read
    rw [selected] at same
    have success : (capture.sip.daemon.cmdDeviceSetVideo build outcomes params).1.status =
        .success := by
      rw [same]
      rfl
    rw [if_pos success, given] at selects
    rw [same] at leaves
    refine settled.patched config ?_ ?_ ?_ selects real
    · rw [leaves]
      rfl
    · rw [leaves]
      rfl
    · rw [leaves]
      rfl

theorem configure (settled : capture.Settled devices) (serves : Serves devices outcomes)
    (runs : Daemon.executed build line = some (.accountConfigure, params)) :
    (capture.step build (.line line outcomes)).Settled devices := by
  have leaves : (capture.sip.step build (.line line outcomes)).daemon =
      (capture.sip.daemon.cmdAccountConfigure outcomes params).2 := Sip.step_executed runs
  have unselected : selection build capture.sip (.line line outcomes) = none :=
    selection_other runs (by decide) capture.sip
  obtain same | ⟨free, asked, config, questions, resolved, same⟩ :=
    @Daemon.cmdAccountConfigure_resolves outcomes capture.sip.daemon _ params serves.vidDevs
  · have unchanged : (capture.sip.step build (.line line outcomes)).daemon =
        { capture.sip.daemon with log := capture.sip.daemon.log ++ [] } := by
      rw [leaves, same, List.append_nil]
    exact settled.kept unchanged (List.forall_mem_nil _) unselected
  · rw [same] at leaves
    have resolution : config.vidCapDev =
        capture.last.getD (firstCapture (devices.take maxDevices)) := by
      rw [resolved, settled.selected]
      cases last : capture.last with
      | none => exact if_pos rfl
      | some captureId =>
          refine if_neg fun invalid => settled.real ?_
          rw [last]
          exact congrArg some invalid
    cases added : outcomes.accAdd with
    | error status =>
        rw [added] at leaves
        have stays : (Except.error status : Except Failure AccId).toOption.getD invalidId =
            capture.sip.daemon.accId := free.symm
        rw [stays] at leaves
        refine settled.kept leaves (fun action member => ?_) unselected
        rcases List.mem_append.mp member with question | unadded
        · rw [questions action question]
          rfl
        · rw [List.mem_singleton.mp unadded]
          rfl
    | ok accId =>
        rw [added] at leaves
        refine settled.configured free questions ?_ ?_ ?_ (serves.accAdd accId added) unselected
          resolution
        · rw [leaves]
          rfl
        · rw [leaves]
        · rw [leaves]
          rfl

theorem remove (settled : capture.Settled devices)
    (runs : Daemon.executed build line = some (.accountRemove, params)) :
    (capture.step build (.line line outcomes)).Settled devices := by
  have leaves : (capture.sip.step build (.line line outcomes)).daemon =
      (capture.sip.daemon.cmdAccountRemove outcomes).2 := Sip.step_executed runs
  have unselected : selection build capture.sip (.line line outcomes) = none :=
    selection_other runs (by decide) capture.sip
  obtain ⟨added, undone, same⟩ | same :=
    Daemon.cmdAccountRemove_leaves outcomes capture.sip.daemon
  · rw [same] at leaves
    refine settled.kept leaves (fun action member => ?_) unselected
    rw [undone action member]
    rfl
  · rw [same] at leaves
    refine settled.removed ?_ ?_ ?_ unselected
    · rw [leaves]
      rfl
    · rw [leaves]
      rfl
    · rw [leaves]

theorem step (settled : capture.Settled devices) (served : Served build devices input) :
    (capture.step build input).Settled devices := by
  cases input with
  | line line outcomes =>
      obtain ⟨serves, fn, params, runs, chooses, missing⟩ := served
      rcases chooses with rfl | rfl | rfl
      · exact settled.setVideo serves runs (missing rfl)
      · exact settled.configure serves runs
      · exact settled.remove runs
  | _ => exact served.elim

end Settled

/-- A device is selected only when its info has the capture direction. -/
def SelectsCapturing (build : Build) (capture : Capture) (input : SipInput) : Prop :=
  ∀ captureId, selection build capture.sip input = some captureId →
    ∃ line outcomes info, input = .line line outcomes ∧ outcomes.vidDevInfo = .ok info ∧
      info.dir.encoding = true

theorem selectsCapturing (capture : Capture) (input : SipInput) :
    capture.SelectsCapturing build input := by
  intro captureId selects
  cases input with
  | line line outcomes =>
      cases runs : Daemon.executed build line with
      | none =>
          simp only [selection, runs] at selects
          cases selects
      | some command =>
          obtain ⟨fn, params⟩ := command
          by_cases sets : fn = .deviceSetVideo
          · subst sets
            rw [selection_setVideo runs] at selects
            obtain ⟨failed, -⟩ | ⟨-, info, -, read, captures, -⟩ :=
              Daemon.cmdDeviceSetVideo_cases build outcomes params capture.sip.daemon
            · rw [if_neg failed] at selects
              cases selects
            · exact ⟨line, outcomes, info, rfl, read, captures⟩
          · rw [selection_other runs sets] at selects
            cases selects
  | _ => cases selects

/-- The default device can capture, if there is one. -/
theorem firstCapture_captures {devices : List VidDevInfo}
    (found : firstCapture devices ≠ invalidDev) :
    ∃ device ∈ devices, device.id = firstCapture devices ∧ device.dir.encoding = true := by
  unfold firstCapture at found ⊢
  cases first : devices.find? fun device => device.dir.encoding with
  | none =>
      rw [first] at found
      exact (found rfl).elim
  | some device =>
      have captures : device.dir.encoding = true := by simpa using List.find?_some first
      exact ⟨device, List.mem_of_find?_eq_some first, rfl, captures⟩

/-- In every run of these commands that pjsua serves, an account's capture device is the last
that `device.set_video` selected or else the first that can capture; it depends on nothing else
in the run, and a device that cannot capture is never chosen. -/
theorem capture_settled (build : Build) (devices : List VidDevInfo) (inputs : List SipInput)
    (served : Machine.Along (Capture.step build) (fun _ => Served build devices) start inputs) :
    let final := run build start inputs
    let device := final.last.getD (firstCapture (devices.take maxDevices))
    (final.sip.daemon.accId ≠ invalidId → final.configs final.sip.daemon.accId ≠ none) ∧
    (∀ accId config, final.configs accId = some config → config.vidCapDev = device) ∧
    (∀ others, Machine.Along (Capture.step build) (fun _ => Served build devices) start others →
      (run build start others).last = final.last →
      ∀ accId config, (run build start others).configs accId = some config →
        config.vidCapDev = device) ∧
    Machine.Along (Capture.step build) (SelectsCapturing build) start inputs ∧
    (final.last = none → device ≠ invalidDev →
      ∃ found ∈ devices.take maxDevices, found.id = device ∧ found.dir.encoding = true) := by
  intro final device
  have settled (others : List SipInput)
      (served : Machine.Along (Capture.step build) (fun _ => Served build devices) start others) :
      (run build start others).Settled devices :=
    Machine.invariant_run (fun _ _ settled => settled.step) Settled.start served
  refine ⟨(settled inputs served).account, fun accId config found => ?_,
    fun others othersServed sameLast accId config found => ?_, ?_, fun unselected valid => ?_⟩
  · exact ((settled inputs served).device accId config found).2.2
  · have chosen := ((settled others othersServed).device accId config found).2.2
    rw [sameLast] at chosen
    exact chosen
  · exact Machine.along_of_forall selectsCapturing start inputs
  · have isFirst : device = firstCapture (devices.take maxDevices) := by
      simp only [device, unselected, Option.getD_none]
    rw [isFirst] at valid ⊢
    exact firstCapture_captures valid

/-- A renderer and two cameras. -/
def cameras : List VidDevInfo :=
  [⟨0, ascii "null", ascii "null", ⟨false, true⟩⟩, ⟨1, ascii "front", ascii "v4l2", ⟨true, false⟩⟩,
    ⟨2, ascii "back", ascii "v4l2", ⟨true, false⟩⟩]

/-- pjsua serves a command, and the device it asks about is the second camera. -/
def serving : Outcomes :=
  { Outcomes.sample with
    accConfig := .ok ⟨ascii "sip:a@b", ascii "sip:b", false, true, true, 1, []⟩
    vidDevs := .ok cameras
    vidDevInfo := .ok ⟨2, ascii "back", ascii "v4l2", ⟨true, false⟩⟩ }

def setVideoLine : Bytes := requestLine "device.set_video" "\"capture_id\":2"

def captureBuild : Build :=
  sampleBuild [(Endpoint.configureLine, Endpoint.configureRequest),
    (setVideoLine, request "device.set_video" [addNumber "capture_id" 2])]

/-- The account is configured before a camera is selected. -/
def patchedRun : List SipInput := [.line Endpoint.configureLine serving, .line setVideoLine serving]

theorem patchedRun_settled :
    ∃ config, (run captureBuild start patchedRun).configs 0 = some config ∧
      config.vidCapDev = 2 := by
  have serves : Serves cameras serving := by
    refine ⟨rfl, ⟨_, rfl⟩, rfl, rfl, ?_⟩
    rintro accId ⟨⟩
    decide
  have served : Machine.Along (Capture.step captureBuild) (fun _ => Served captureBuild cameras)
      start patchedRun := by
    refine ⟨⟨serves, _, _, rfl, .inr (.inl rfl), ?_⟩,
      ⟨serves, _, _, rfl, .inl rfl, ?_⟩, trivial⟩
    · intro other
      cases other
    · intro _ invalid
      exact absurd invalid (by decide)
  obtain ⟨account, device, -⟩ := capture_settled captureBuild cameras patchedRun served
  obtain ⟨config, found⟩ := Option.ne_none_iff_exists'.mp (account (by decide))
  exact ⟨config, found, device 0 config found⟩

end Capture

end Pjsocky
