import Mathlib.Data.List.Basic
import Pjsocky.Pjsua
import Pjsocky.Support.Machine

/-!
# The null video renderer

The device of `null_video_dev.c`: a factory with one device, whose streams discard every frame.
pjmedia calls its operations in any order, on any number of streams. Each stream lives in a
memory pool of its own, as the factory does; a use of a pool that has been released is a fault.
`pjmedia_vid_dev_param` is modelled by the fields that the device fills in.
-/

namespace Pjsocky

open Support

/-- What the operations return. -/
inductive VidStatus where
  | success
  | einval
  | enomem
  /-- `PJMEDIA_EVID_INVDEV`. -/
  | invDev
  /-- `PJMEDIA_EVID_INVCAP`. -/
  | invCap
deriving DecidableEq, Repr

/-- `pjmedia_format`, of a video. -/
structure VidFormat where
  id : Bytes
  width : Nat
  height : Nat
  fpsNum : Nat
  fpsDenum : Nat
deriving DecidableEq, Repr

/-- `pjmedia_vid_dev_cap`. -/
inductive VidDevCap where
  /-- `PJMEDIA_VID_DEV_CAP_FORMAT`. -/
  | format
  | other (cap : Nat)
deriving DecidableEq, Repr

/-- `pjmedia_vid_dev_param`. -/
structure VidDevParam where
  dir : MediaDir
  capId : Int
  rendId : Int
  clockRate : Nat
  flags : Nat
  fmt : VidFormat
deriving DecidableEq, Repr

/-- The `info` of the factory. -/
structure NullVidInfo where
  name : Bytes
  driver : Bytes
  dir : MediaDir
  hasCallback : Bool
  caps : List VidDevCap
  fmt : List VidFormat
deriving DecidableEq, Repr

/-- `PJMEDIA_DIR_RENDER`. -/
def renderDir : MediaDir := ⟨false, true⟩

/-- `PJMEDIA_FORMAT_I420` at 640x480 and 25 frames per second. -/
def nullFormat : VidFormat := ⟨ascii "I420", 640, 480, 25, 1⟩

/-- `factory_init`, the info it fills in. -/
def factoryInit : NullVidInfo where
  name := ascii "Null renderer"
  driver := ascii "Null"
  dir := renderDir
  hasCallback := false
  caps := [.format]
  fmt := [nullFormat]

/-- `factory_get_dev_count`. -/
def factoryGetDevCount : Nat := 1

/-- `factory_get_dev_info`. -/
def factoryGetDevInfo (info : NullVidInfo) (index : Nat) : Except VidStatus NullVidInfo :=
  if index = 0 then .ok info else .error .invDev

/-- `factory_default_param`. -/
def factoryDefaultParam (info : NullVidInfo) (index : Nat) : Except VidStatus VidDevParam :=
  if index = 0 then
    .ok
      { dir := renderDir
        capId := -3
        rendId := index
        clockRate := 0
        flags := 0
        fmt := info.fmt.headD nullFormat }
  else .error .invDev

/-- `struct null_vid_stream`. -/
structure NullVidStream where
  param : VidDevParam
  /-- The pool that the stream lives in, until it is released. -/
  pool : Option Nat
deriving DecidableEq, Repr

namespace NullVidStream

variable (strm : NullVidStream)

/-- `stream_get_param`. -/
def getParam : VidDevParam := strm.param

/-- `stream_get_cap`. -/
def getCap (cap : VidDevCap) : Except VidStatus VidFormat :=
  if cap = .format then .ok strm.param.fmt else .error .invCap

/-- `stream_set_cap`. -/
def setCap (cap : VidDevCap) (fmt : VidFormat) : VidStatus × NullVidStream :=
  if cap = .format then (.success, { strm with param := { strm.param with fmt } })
  else (.invCap, strm)

end NullVidStream

/-- The factory with the streams it has created, and the memory pools there are. -/
structure NullVideo where
  info : NullVidInfo
  /-- The pool of the factory, until it is released. -/
  pool : Option Nat
  streams : List NullVidStream
  pools : List Nat
  nextPool : Nat
  /-- How often memory was used or released that was released before. -/
  faults : Nat
deriving DecidableEq, Repr

/-- An operation that pjmedia calls; a stream is named by its place among those created. -/
inductive VidOp where
  | factoryDestroy
  | factoryRefresh
  | factoryGetDevCount
  | factoryGetDevInfo (index : Nat)
  | factoryDefaultParam (index : Nat)
  /-- `factory_create_stream`, and whether there is memory for a pool. -/
  | factoryCreateStream (param : VidDevParam) (memory : Bool)
  | streamGetParam (strm : Nat)
  | streamGetCap (strm : Nat) (cap : VidDevCap)
  | streamSetCap (strm : Nat) (cap : VidDevCap) (fmt : VidFormat)
  | streamStart (strm : Nat)
  | streamPutFrame (strm : Nat)
  | streamStop (strm : Nat)
  | streamDestroy (strm : Nat)
deriving DecidableEq, Repr

namespace NullVideo

/-- `pjsocky_null_vid_factory`, and `factory_init` on it, which pjmedia calls at once. -/
def start : NullVideo := ⟨factoryInit, some 0, [], [0], 1, 0⟩

/-- `pj_pool_release`. -/
def release (pool : Nat) (dev : NullVideo) : NullVideo :=
  if pool ∈ dev.pools then { dev with pools := dev.pools.erase pool }
  else { dev with faults := dev.faults + 1 }

/-- `pj_pool_safe_release`: a pool that is there. -/
def safeRelease (pool : Option Nat) (dev : NullVideo) : NullVideo :=
  match pool with
  | some pool => dev.release pool
  | none => dev

/-- `factory_destroy`. -/
def factoryDestroy (dev : NullVideo) : NullVideo :=
  { dev.safeRelease dev.pool with pool := none }

/-- `factory_create_stream`. -/
def factoryCreateStream (param : VidDevParam) (memory : Bool) (dev : NullVideo) :
    Except VidStatus Nat × NullVideo :=
  if param.dir ≠ renderDir then (.error .invDev, dev)
  else if !memory then (.error .enomem, dev)
  else
    (.ok dev.streams.length,
      { dev with
        streams := dev.streams ++ [⟨param, some dev.nextPool⟩]
        pools := dev.nextPool :: dev.pools
        nextPool := dev.nextPool + 1 })

/-- `stream_set_cap` on a stream. -/
def streamSetCap (strm : Nat) (cap : VidDevCap) (fmt : VidFormat) (dev : NullVideo) : NullVideo :=
  { dev with streams := dev.streams.modify strm fun strm => (strm.setCap cap fmt).2 }

/-- The pool of a stream, until it is released. -/
def streamPool (strm : Nat) (dev : NullVideo) : Option Nat :=
  dev.streams[strm]?.bind NullVidStream.pool

/-- `stream_destroy`. -/
def streamDestroy (strm : Nat) (dev : NullVideo) : NullVideo :=
  let released := dev.safeRelease (dev.streamPool strm)
  { released with streams := released.streams.modify strm fun strm => { strm with pool := none } }

/-- The memory that an operation uses, if it is still there. -/
def memory (dev : NullVideo) : VidOp → Option Nat
  | .factoryDestroy | .factoryRefresh | .factoryGetDevCount | .factoryGetDevInfo _
  | .factoryDefaultParam _ | .factoryCreateStream .. => dev.pool
  | .streamGetParam strm | .streamGetCap strm _ | .streamSetCap strm _ _ | .streamStart strm
  | .streamPutFrame strm | .streamStop strm | .streamDestroy strm => dev.streamPool strm

def touch (op : VidOp) (dev : NullVideo) : NullVideo :=
  if dev.memory op = none then { dev with faults := dev.faults + 1 } else dev

/-- What an operation changes; the others only read. -/
def perform (dev : NullVideo) : VidOp → NullVideo
  | .factoryDestroy => dev.factoryDestroy
  | .factoryCreateStream param memory => (dev.factoryCreateStream param memory).2
  | .streamSetCap strm cap fmt => dev.streamSetCap strm cap fmt
  | .streamDestroy strm => dev.streamDestroy strm
  | _ => dev

def step (dev : NullVideo) (op : VidOp) : NullVideo := (dev.touch op).perform op

/-- The state after a list of operations. -/
abbrev run : NullVideo → List VidOp → NullVideo := Machine.run step

/-- pjmedia uses the factory and a stream until it destroys them, and no longer. -/
def InUse (dev : NullVideo) (op : VidOp) : Prop := dev.memory op ≠ none

instance (dev : NullVideo) (op : VidOp) : Decidable (dev.InUse op) :=
  inferInstanceAs (Decidable (_ ≠ _))

/-! ## Memory -/

/-- The pools that the factory and its streams hold. -/
def held (dev : NullVideo) : List Nat :=
  dev.pool.toList ++ dev.streams.filterMap NullVidStream.pool

/-- No memory has been misused, there are just the pools that are held, and every stream
renders. -/
structure Sound (dev : NullVideo) : Prop where
  faults : dev.faults = 0
  pools : dev.pools.Perm dev.held
  distinct : dev.pools.Nodup
  fresh : ∀ pool ∈ dev.pools, pool < dev.nextPool
  renders : ∀ strm ∈ dev.streams, strm.param.dir = renderDir

variable {dev : NullVideo}

/-- A stream among the others. -/
theorem streams_split {strm : Nat} {found : NullVidStream}
    (present : dev.streams[strm]? = some found) :
    ∃ before after, dev.streams = before ++ found :: after ∧
      ∀ change : NullVidStream → NullVidStream,
        dev.streams.modify strm change = before ++ change found :: after := by
  obtain ⟨inside, same⟩ := List.getElem?_eq_some_iff.mp present
  refine ⟨dev.streams.take strm, dev.streams.drop (strm + 1), ?_, fun change => ?_⟩
  · rw [← same, ← List.drop_eq_getElem_cons inside, List.take_append_drop]
  · rw [List.modify_eq_take_cons_drop inside, same]

/-- A pool that is held is there to be released. -/
theorem Sound.release (sound : dev.Sound) {pool : Nat} {rest : List Nat}
    (holds : dev.held.Perm (pool :: rest)) :
    ∃ pools, dev.release pool = { dev with pools } ∧ pools.Perm rest ∧ pools.Nodup ∧
      ∀ other ∈ pools, other < dev.nextPool := by
  have all := sound.pools.trans holds
  have present : pool ∈ dev.pools := all.symm.subset List.mem_cons_self
  refine ⟨dev.pools.erase pool, if_pos present, ?_, sound.distinct.erase pool, ?_⟩
  · exact ((List.perm_cons_erase present).symm.trans all).cons_inv
  · exact fun other member => sound.fresh other (List.mem_of_mem_erase member)

theorem Sound.factoryDestroy (sound : dev.Sound) : dev.factoryDestroy.Sound := by
  cases has : dev.pool with
  | none =>
      have same : dev.factoryDestroy = dev := by
        rw [NullVideo.factoryDestroy, has, safeRelease]
        obtain ⟨info, pool, streams, pools, nextPool, faults⟩ := dev
        rw [show pool = none from has]
      exact same ▸ sound
  | some pool =>
      have holds : dev.held.Perm (pool :: dev.streams.filterMap NullVidStream.pool) := by
        rw [held, has]
        exact List.Perm.refl _
      obtain ⟨pools, released, perm, distinct, fresh⟩ := sound.release holds
      rw [NullVideo.factoryDestroy, has, safeRelease, released]
      exact ⟨sound.faults, perm, distinct, fresh, sound.renders⟩

theorem Sound.streamDestroy (sound : dev.Sound) (strm : Nat) : (dev.streamDestroy strm).Sound := by
  unfold NullVideo.streamDestroy streamPool
  cases present : dev.streams[strm]? with
  | none =>
      have same (change : NullVidStream → NullVidStream) : dev.streams.modify strm change =
          dev.streams := by
        exact List.modify_eq_self (List.getElem?_eq_none_iff.mp present)
      dsimp only [Option.bind_none, safeRelease]
      rw [same]
      exact sound
  | some found =>
      obtain ⟨before, after, whole, modified⟩ := streams_split present
      have renders : ∀ strm ∈ before ++ { found with pool := none } :: after,
          strm.param.dir = renderDir := by
        intro other member
        have all := sound.renders
        rw [whole] at all
        obtain early | same | late := by simpa using member
        · exact all other (List.mem_append_left _ early)
        · rw [same]
          exact all found (List.mem_append_right _ List.mem_cons_self)
        · exact all other (List.mem_append_right _ (List.mem_cons_of_mem _ late))
      cases has : found.pool with
      | none =>
          have pools := sound.pools
          rw [held, whole] at pools
          dsimp only [Option.bind_some, safeRelease]
          rw [has]
          dsimp only
          rw [modified]
          refine ⟨sound.faults, ?_, sound.distinct, sound.fresh, renders⟩
          simpa [held, has] using pools
      | some pool =>
          have holds : dev.held.Perm
              (pool :: (dev.pool.toList ++ (before ++ after).filterMap NullVidStream.pool)) := by
            rw [held, whole, List.filterMap_append, List.filterMap_append,
              List.filterMap_cons_some has, ← List.append_assoc, ← List.append_assoc]
            exact List.perm_middle
          obtain ⟨pools, released, perm, distinct, fresh⟩ := sound.release holds
          dsimp only [Option.bind_some, safeRelease]
          rw [has]
          dsimp only
          rw [released]
          dsimp only
          rw [modified]
          refine ⟨sound.faults, ?_, distinct, fresh, renders⟩
          simpa [held] using perm

theorem Sound.streamSetCap (sound : dev.Sound) (strm : Nat) (cap : VidDevCap) (fmt : VidFormat) :
    (dev.streamSetCap strm cap fmt).Sound := by
  unfold NullVideo.streamSetCap
  cases present : dev.streams[strm]? with
  | none =>
      rw [List.modify_eq_self (List.getElem?_eq_none_iff.mp present)]
      exact sound
  | some found =>
      obtain ⟨before, after, whole, modified⟩ := streams_split present
      have same : (found.setCap cap fmt).2.pool = found.pool ∧
          (found.setCap cap fmt).2.param.dir = found.param.dir := by
        unfold NullVidStream.setCap
        split <;> exact ⟨rfl, rfl⟩
      have pools := sound.pools
      have all := sound.renders
      rw [held, whole] at pools
      rw [whole] at all
      rw [modified]
      refine ⟨sound.faults, ?_, sound.distinct, sound.fresh, fun other member => ?_⟩
      · rw [held]
        simpa [List.filterMap_cons, same.1] using pools
      · obtain early | here | late := by simpa using member
        · exact all other (List.mem_append_left _ early)
        · rw [here, same.2]
          exact all found (List.mem_append_right _ List.mem_cons_self)
        · exact all other (List.mem_append_right _ (List.mem_cons_of_mem _ late))

theorem Sound.factoryCreateStream (sound : dev.Sound) (param : VidDevParam) (memory : Bool) :
    (dev.factoryCreateStream param memory).2.Sound := by
  unfold NullVideo.factoryCreateStream
  split
  · exact sound
  · rename_i renders
    split
    · exact sound
    · have new : dev.nextPool ∉ dev.pools := fun member =>
        Nat.lt_irrefl _ (sound.fresh _ member)
      refine ⟨sound.faults, ?_, List.nodup_cons.mpr ⟨new, sound.distinct⟩, ?_, ?_⟩
      · have longer := (sound.pools.cons dev.nextPool).trans
          (List.perm_append_singleton dev.nextPool dev.held).symm
        simpa [held, List.append_assoc] using longer
      · intro pool member
        obtain rfl | old := List.mem_cons.mp member
        · exact Nat.lt_succ_self _
        · exact Nat.lt_succ_of_lt (sound.fresh pool old)
      · intro strm member
        obtain old | new := List.mem_append.mp member
        · exact sound.renders strm old
        · rw [List.mem_singleton.mp new]
          exact not_not.mp renders

theorem Sound.step (sound : dev.Sound) {op : VidOp} (inUse : dev.InUse op) :
    (dev.step op).Sound := by
  rw [NullVideo.step, touch, if_neg inUse]
  cases op with
  | factoryDestroy => exact sound.factoryDestroy
  | factoryCreateStream param memory => exact sound.factoryCreateStream param memory
  | streamSetCap strm cap fmt => exact sound.streamSetCap strm cap fmt
  | streamDestroy strm => exact sound.streamDestroy strm
  | _ => exact sound

theorem Sound.start : NullVideo.start.Sound :=
  ⟨rfl, List.Perm.refl _, by decide, by decide, List.forall_mem_nil _⟩

/-! ## Formats -/

/-- An operation that sets a stream's format. -/
def SetsFormat (strm : Nat) (op : VidOp) : Prop := ∃ fmt, op = .streamSetCap strm .format fmt

theorem touch_streams (op : VidOp) (dev : NullVideo) : (dev.touch op).streams = dev.streams := by
  unfold touch
  split <;> rfl

theorem safeRelease_streams (pool : Option Nat) (dev : NullVideo) :
    (dev.safeRelease pool).streams = dev.streams := by
  unfold safeRelease release
  split
  · split <;> rfl
  · rfl

/-- A change of one stream that leaves its parameters alone. -/
theorem modify_param {streams : List NullVidStream} {strm other : Nat} {found : NullVidStream}
    (present : streams[strm]? = some found) {change : NullVidStream → NullVidStream}
    (keeps : other = strm → (change found).param = found.param) :
    ∃ after, (streams.modify other change)[strm]? = some after ∧ after.param = found.param := by
  rw [List.getElem?_modify, present]
  by_cases same : other = strm
  · exact ⟨change found, by simp [same], keeps same⟩
  · exact ⟨found, by simp [same], rfl⟩

/-- Only `stream_set_cap` changes what a stream was created with. -/
theorem step_param {strm : Nat} {found : NullVidStream} (present : dev.streams[strm]? = some found)
    {op : VidOp} (other : ¬SetsFormat strm op) :
    ∃ after, (dev.step op).streams[strm]? = some after ∧ after.param = found.param := by
  rw [← touch_streams op dev] at present
  unfold step
  generalize dev.touch op = touched at present
  cases op with
  | factoryDestroy =>
      refine ⟨found, ?_, rfl⟩
      rw [perform, factoryDestroy, safeRelease_streams]
      exact present
  | factoryCreateStream param memory =>
      refine ⟨found, ?_, rfl⟩
      dsimp only [perform, factoryCreateStream]
      split
      · exact present
      · split
        · exact present
        · exact List.getElem?_append_left (List.getElem?_eq_some_iff.mp present).1 ▸ present
  | streamSetCap target cap fmt =>
      refine modify_param present fun same => ?_
      rw [NullVidStream.setCap, if_neg]
      rintro rfl
      exact other ⟨fmt, same ▸ rfl⟩
  | streamDestroy target =>
      rw [perform, streamDestroy, safeRelease_streams]
      exact modify_param present fun _ => rfl
  | _ => exact ⟨found, present, rfl⟩

theorem run_param {strm : Nat} {found : NullVidStream} (present : dev.streams[strm]? = some found)
    {ops : List VidOp} (others : ∀ op ∈ ops, ¬SetsFormat strm op) :
    ∃ after, (run dev ops).streams[strm]? = some after ∧ after.param = found.param := by
  induction ops generalizing dev found with
  | nil => exact ⟨found, present, rfl⟩
  | cons op rest ih =>
      obtain ⟨next, there, same⟩ := step_param present (others op List.mem_cons_self)
      obtain ⟨after, last, kept⟩ := ih there fun op member =>
        others op (List.mem_cons_of_mem _ member)
      exact ⟨after, last, kept.trans same⟩

theorem setFormat_param {strm : Nat} {found : NullVidStream}
    (present : dev.streams[strm]? = some found) (fmt : VidFormat) :
    ∃ after, (dev.step (.streamSetCap strm .format fmt)).streams[strm]? = some after ∧
      after.param = { found.param with fmt } := by
  refine ⟨(found.setCap .format fmt).2, ?_, rfl⟩
  dsimp only [step, perform, streamSetCap]
  rw [touch_streams, List.getElem?_modify, present]
  simp

end NullVideo

/-- Whatever pjmedia does with the renderer, as long as it uses nothing that it has destroyed:
memory is never misused, the factory and each stream hold one pool until they are destroyed and
no other pools are left, and every stream is a render stream. -/
theorem null_video_sound (ops : List VidOp)
    (inUse : Machine.Along NullVideo.step NullVideo.InUse NullVideo.start ops) :
    let dev := NullVideo.run .start ops
    dev.faults = 0 ∧ dev.pools.Nodup ∧
      dev.pools.Perm (dev.pool.toList ++ dev.streams.filterMap NullVidStream.pool) ∧
      ∀ strm ∈ dev.streams, strm.getParam.dir = renderDir := by
  have preserved : ∀ (dev : NullVideo) (op : VidOp), dev.Sound → dev.InUse op →
      (dev.step op).Sound := fun _ _ sound inUse => sound.step inUse
  have sound : (NullVideo.run .start ops).Sound :=
    Machine.invariant_run preserved NullVideo.Sound.start inUse
  exact ⟨sound.faults, sound.distinct, sound.pools, sound.renders⟩

/-- A stream accepts every format and keeps it until the next one is set, whatever happens to
other streams; the rest is as it was created, and it has no other capability. -/
theorem null_video_remembers {dev : NullVideo} {strm : Nat} {found : NullVidStream}
    (present : dev.streams[strm]? = some found) (fmt : VidFormat) (later : List VidOp)
    (others : ∀ op ∈ later, ¬NullVideo.SetsFormat strm op) :
    (found.setCap .format fmt).1 = .success ∧
    ∃ after, (NullVideo.run dev (.streamSetCap strm .format fmt :: later)).streams[strm]? =
        some after ∧
      after.getParam = { found.getParam with fmt } ∧ after.getCap .format = .ok fmt ∧
      ∀ cap, cap ≠ .format → after.getCap cap = .error .invCap ∧
        ∀ other, after.setCap cap other = (.invCap, after) := by
  obtain ⟨next, there, set⟩ := NullVideo.setFormat_param present fmt
  obtain ⟨after, last, kept⟩ := NullVideo.run_param there others
  have same : after.param = { found.param with fmt } := kept.trans set
  refine ⟨rfl, after, last, same, ?_, fun cap foreign => ?_⟩
  · rw [NullVidStream.getCap, if_pos rfl, same]
  · exact ⟨if_neg foreign, fun other => if_neg foreign⟩

section Concrete

/-- A preview and a remote video are opened, both change their format, and the preview goes. -/
def twoWindows : List VidOp :=
  let param : VidDevParam := ⟨renderDir, -3, 0, 0, 0, nullFormat⟩
  [.factoryCreateStream param true, .factoryCreateStream param true,
    .streamSetCap 1 .format ⟨ascii "I420", 352, 288, 15, 1⟩, .streamPutFrame 1,
    .streamSetCap 0 .format ⟨ascii "I420", 720, 480, 30, 1⟩, .streamStop 0, .streamDestroy 0,
    .streamGetParam 1]

theorem twoWindows_sound :
    let dev := NullVideo.run .start twoWindows
    dev.faults = 0 ∧ dev.pools.Nodup ∧
      dev.pools.Perm (dev.pool.toList ++ dev.streams.filterMap NullVidStream.pool) ∧
      ∀ strm ∈ dev.streams, strm.getParam.dir = renderDir :=
  null_video_sound twoWindows (by decide)

theorem twoWindows_remembers :
    let dev := NullVideo.run .start (twoWindows.take 2)
    let found : NullVidStream := ⟨⟨renderDir, -3, 0, 0, 0, nullFormat⟩, some 2⟩
    let fmt : VidFormat := ⟨ascii "I420", 352, 288, 15, 1⟩
    (found.setCap .format fmt).1 = .success ∧
    ∃ after, (NullVideo.run dev (.streamSetCap 1 .format fmt :: twoWindows.drop 3)).streams[1]? =
        some after ∧
      after.getParam = { found.getParam with fmt } ∧ after.getCap .format = .ok fmt ∧
      ∀ cap, cap ≠ .format → after.getCap cap = .error .invCap ∧
        ∀ other, after.setCap cap other = (.invCap, after) :=
  null_video_remembers (by decide) _ (twoWindows.drop 3) (by
    simp [twoWindows, NullVideo.SetsFormat])

end Concrete
end Pjsocky
