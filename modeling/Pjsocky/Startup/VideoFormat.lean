import Mathlib.Logic.Function.Basic
import Pjsocky.Base
import Pjsocky.Support.CString

/-!
# The video format from the environment

`apply_video_format_override` of `main.c`: it parses `PJSOCKY_VIDEO_SIZE` and
`PJSOCKY_VIDEO_FPS` and writes what they give into the parameters of every video codec.
`IsVideoSize` and `IsVideoFps` are the grammars of the two variables, and `Overridden` says
what becomes of one codec's parameters.
-/

namespace Pjsocky

open Support Support.CString

/-- `PJSOCKY_VIDEO_MAX_DIM`. -/
def videoMaxDim : Nat := 8192

/-- `PJSOCKY_VIDEO_MAX_FPS`. -/
def videoMaxFps : Nat := 240

/-- `pjmedia_ratio`. A log line of the daemon divides by `denum`. -/
structure Ratio where
  num : Nat
  denum : Nat
  positive : 0 < denum

/-- `pjmedia_vid_codec_param`: the encoder's size and frame rate, and everything else. -/
structure VidCodecParam (Rest : Type) where
  width : Nat
  height : Nat
  fps : Ratio
  rest : Rest

/-- pjsua's video codecs: what `pjsua_vid_enum_codecs` lists, the parameters of each codec,
and what `pjsua_vid_codec_set_param` answers. The requests to set them are recorded. -/
structure VidCodecs (Id Rest : Type) where
  enumCodecs : Except Failure (List Id)
  param : Id → Except Failure (VidCodecParam Rest)
  setStatus : Id → VidCodecParam Rest → Status
  requests : List (Id × VidCodecParam Rest)

/-- The local variables `width`, `height` and `fps`; zero is not applied. -/
structure VideoFormat where
  width : Nat
  height : Nat
  fps : Nat

/-- The second number of a size, after the first and its end pointer. -/
def parseVideoHeight (ulong : ULong) (first : Nat × Bytes) : Nat × Bytes :=
  if first.1 ≠ 0 ∧ (charAt first.2 = 120 ∨ charAt first.2 = 88) ∧
      isDigit (charAt first.2.tail) then
    strtoul ulong first.2.tail
  else (0, first.2)

/-- The part of `apply_video_format_override` that parses `size_str`. -/
def parseVideoSize (ulong : ULong) (sizeStr : Bytes) : Nat × Nat :=
  let first := if isDigit (charAt sizeStr) then strtoul ulong sizeStr else (0, sizeStr)
  let second := parseVideoHeight ulong first
  if first.1 = 0 ∨ second.1 = 0 ∨ charAt second.2 ≠ 0 ∨ videoMaxDim < first.1 ∨
      videoMaxDim < second.1 then
    (0, 0)
  else (first.1, second.1)

/-- The part of `apply_video_format_override` that parses `fps_str`. -/
def parseVideoFps (ulong : ULong) (fpsStr : Bytes) : Nat :=
  let first := if isDigit (charAt fpsStr) then strtoul ulong fpsStr else (0, fpsStr)
  if first.1 = 0 ∨ charAt first.2 ≠ 0 ∨ videoMaxFps < first.1 then 0 else first.1

/-- What the two variables give; an unset variable gives nothing. -/
def videoFormat (ulong : ULong) (sizeStr fpsStr : Option CString) : VideoFormat :=
  let size := (sizeStr.map fun text => parseVideoSize ulong text.bytes).getD (0, 0)
  let fps := (fpsStr.map fun text => parseVideoFps ulong text.bytes).getD 0
  ⟨size.1, size.2, fps⟩

/-- The assignments to `param`. -/
def VideoFormat.override {Rest : Type} (format : VideoFormat) (param : VidCodecParam Rest) :
    VidCodecParam Rest :=
  let param :=
    if format.width ≠ 0 then { param with width := format.width, height := format.height }
    else param
  if format.fps ≠ 0 then { param with fps := ⟨format.fps, 1, Nat.one_pos⟩ } else param

section Apply

variable {Id Rest : Type} [DecidableEq Id]

/-- `pjsua_vid_codec_set_param`. -/
def VidCodecs.setParam (codecs : VidCodecs Id Rest) (id : Id) (param : VidCodecParam Rest) :
    VidCodecs Id Rest :=
  { codecs with
    requests := codecs.requests ++ [(id, param)]
    param :=
      if codecs.setStatus id param = .success then Function.update codecs.param id (.ok param)
      else codecs.param }

/-- One pass of the loop over the codecs. -/
def VideoFormat.overrideCodec (format : VideoFormat) (codecs : VidCodecs Id Rest) (id : Id) :
    VidCodecs Id Rest :=
  match codecs.param id with
  | .error _ => codecs
  | .ok param => codecs.setParam id (format.override param)

/-- `apply_video_format_override`. -/
def applyVideoFormatOverride (ulong : ULong) (sizeStr fpsStr : Option CString)
    (codecs : VidCodecs Id Rest) : VidCodecs Id Rest :=
  let format := videoFormat ulong sizeStr fpsStr
  if format.width = 0 ∧ format.fps = 0 then codecs
  else
    match codecs.enumCodecs with
    | .error _ => codecs
    | .ok ids => ids.foldl format.overrideCodec codecs

end Apply

/-! ## The grammars -/

/-- `WxH` with both sides between 1 and `PJSOCKY_VIDEO_MAX_DIM`. -/
def IsVideoSize (text : Bytes) (size : Nat × Nat) : Prop :=
  ∃ left letter right, text = left ++ letter :: right ∧ IsNumeral left ∧ IsNumeral right ∧
    (letter = 120 ∨ letter = 88) ∧ decimalValue left = size.1 ∧ decimalValue right = size.2 ∧
    (1 ≤ size.1 ∧ size.1 ≤ videoMaxDim) ∧ 1 ≤ size.2 ∧ size.2 ≤ videoMaxDim

/-- A whole number between 1 and `PJSOCKY_VIDEO_MAX_FPS`. -/
def IsVideoFps (text : Bytes) (fps : Nat) : Prop :=
  IsNumeral text ∧ decimalValue text = fps ∧ 1 ≤ fps ∧ fps ≤ videoMaxFps

/-- A variable of the environment is set to a text that a grammar accepts with this value. -/
def Gives {Value : Type} (grammar : Bytes → Value → Prop) (envVar : Option CString)
    (value : Value) : Prop :=
  ∃ text, envVar = some text ∧ grammar text.bytes value

variable {text : Bytes} {ulong : ULong}

/-- A saturated number is out of every bound. -/
theorem eq_of_min_le {value bound : Nat} (small : bound < 4294967295)
    (within : min value ulong.max ≤ bound) : min value ulong.max = value := by
  have large := ulong.standard
  omega

/-- A number that is not zero has digits. -/
theorem takeWhile_isNumeral (nonzero : min (decimalValue (text.takeWhile isDigit)) ulong.max ≠ 0) :
    IsNumeral (text.takeWhile isDigit) := by
  refine ⟨fun empty => nonzero ?_, fun char member => List.mem_takeWhile_imp member⟩
  rw [empty]
  exact Nat.zero_min _

/-- A text whose digits end at its terminator is a number. -/
theorem takeWhile_eq_self (terminated : 0 ∉ text) (ended : charAt (text.dropWhile isDigit) = 0) :
    text.takeWhile isDigit = text := by
  have nothing : text.dropWhile isDigit = [] := by
    refine (charAt_eq_zero fun member => terminated ?_).mp ended
    exact (List.dropWhile_suffix _).subset member
  have split := List.takeWhile_append_dropWhile (p := isDigit) (l := text)
  rwa [nothing, List.append_nil] at split

/-! ### The frame rate -/

theorem parseVideoFps_of_isVideoFps (ulong : ULong) {fps : Nat} (accepted : IsVideoFps text fps) :
    parseVideoFps ulong text = fps := by
  obtain ⟨numeral, isValue, positive, within⟩ := accepted
  have taken : text.takeWhile isDigit = text := List.takeWhile_eq_self_iff.mpr numeral.2
  have dropped : text.dropWhile isDigit = [] := List.dropWhile_eq_nil_iff.mpr numeral.2
  have large := ulong.standard
  have whole : min (decimalValue text) ulong.max = fps := by
    unfold videoMaxFps at within
    omega
  unfold parseVideoFps
  rw [numeral_or_zero, taken, dropped, whole]
  refine if_neg ?_
  rintro (zero | more | large)
  · exact absurd zero (Nat.ne_of_gt positive)
  · exact more rfl
  · exact absurd within (Nat.not_le.mpr large)

/-- A frame rate that the parser does not refuse is one of the grammar. -/
theorem parseVideoFps_cases (ulong : ULong) (terminated : 0 ∉ text) :
    parseVideoFps ulong text = 0 ∨ IsVideoFps text (parseVideoFps ulong text) := by
  unfold parseVideoFps
  rw [numeral_or_zero]
  dsimp only
  split
  · exact .inl rfl
  · rename_i accepted
    simp only [not_or, not_not, Nat.not_lt] at accepted
    obtain ⟨nonzero, ended, within⟩ := accepted
    have numeral := takeWhile_isNumeral nonzero
    have value := eq_of_min_le (by decide : videoMaxFps < 4294967295) within
    rw [takeWhile_eq_self terminated ended] at numeral nonzero within value ⊢
    exact .inr ⟨numeral, value.symm, Nat.one_le_iff_ne_zero.mpr nonzero, within⟩

/-! ### The size -/

/-- The digits before the letter, and the letter with what follows it. -/
theorem split_at_letter {left : Bytes} {letter : UInt8} (numeral : IsNumeral left)
    (isLetter : letter = 120 ∨ letter = 88) (right : Bytes) :
    (left ++ letter :: right).takeWhile isDigit = left ∧
      (left ++ letter :: right).dropWhile isDigit = letter :: right := by
  have stops : isDigit letter = false := by
    rcases isLetter with rfl | rfl <;> decide
  rw [List.takeWhile_append_of_pos numeral.2, List.dropWhile_append_of_pos numeral.2,
    List.takeWhile_cons, List.dropWhile_cons, stops]
  exact ⟨List.append_nil left, rfl⟩

/-- After the first number and the letter, the second is read to its end. -/
theorem parseVideoHeight_numeral {width : Nat} {letter : UInt8} {right : Bytes}
    (nonzero : width ≠ 0) (isLetter : letter = 120 ∨ letter = 88) (numeral : IsNumeral right) :
    parseVideoHeight ulong (width, letter :: right) =
      (min (decimalValue right) ulong.max, []) := by
  have digitNext : isDigit (charAt right) = true := by
    cases right with
    | nil => exact absurd rfl numeral.1
    | cons digit more => exact numeral.2 digit List.mem_cons_self
  have read : strtoul ulong (right ++ []) = _ := strtoul_digits ulong numeral rfl
  rw [List.append_nil] at read
  rw [← read]
  exact if_pos ⟨nonzero, isLetter, digitNext⟩

/-- A second number that is not zero stands after the letter. -/
theorem parseVideoHeight_cases {first : Nat × Bytes}
    (nonzero : (parseVideoHeight ulong first).1 ≠ 0) :
    ∃ letter right, first.2 = letter :: right ∧ (letter = 120 ∨ letter = 88) ∧
      parseVideoHeight ulong first =
        (min (decimalValue (right.takeWhile isDigit)) ulong.max, right.dropWhile isDigit) := by
  unfold parseVideoHeight at nonzero ⊢
  split at nonzero
  · rename_i guarded
    rw [if_pos guarded]
    obtain ⟨-, isLetter, digitNext⟩ := guarded
    have read := numeral_or_zero ulong first.2.tail
    rw [if_pos digitNext] at read
    cases rest : first.2 with
    | nil =>
        rw [rest] at isLetter
        rcases isLetter with isX | isX <;> cases isX
    | cons letter right =>
        rw [rest] at isLetter read
        exact ⟨letter, right, rfl, isLetter, read⟩
  · exact absurd rfl nonzero

theorem parseVideoSize_of_isVideoSize (ulong : ULong) {size : Nat × Nat}
    (accepted : IsVideoSize text size) : parseVideoSize ulong text = size := by
  obtain ⟨left, letter, right, rfl, numeralLeft, numeralRight, isLetter, isWidth, isHeight,
    ⟨one_width, width_max⟩, one_height, height_max⟩ := accepted
  obtain ⟨taken, dropped⟩ := split_at_letter numeralLeft isLetter right
  have large := ulong.standard
  have width : min (decimalValue left) ulong.max = size.1 := by
    unfold videoMaxDim at width_max
    omega
  have height : min (decimalValue right) ulong.max = size.2 := by
    unfold videoMaxDim at height_max
    omega
  have second : parseVideoHeight ulong (size.1, letter :: right) = (size.2, []) := by
    rw [parseVideoHeight_numeral (Nat.ne_of_gt one_width) isLetter numeralRight, height]
  unfold parseVideoSize
  rw [numeral_or_zero, taken, dropped, width]
  dsimp only
  rw [second]
  refine if_neg ?_
  rintro (zero | zero | more | large | large)
  · exact absurd zero (Nat.ne_of_gt one_width)
  · exact absurd zero (Nat.ne_of_gt one_height)
  · exact more rfl
  · exact absurd width_max (Nat.not_le.mpr large)
  · exact absurd height_max (Nat.not_le.mpr large)

/-- A size that the parser does not refuse is one of the grammar. -/
theorem parseVideoSize_cases (ulong : ULong) (terminated : 0 ∉ text) :
    parseVideoSize ulong text = (0, 0) ∨ IsVideoSize text (parseVideoSize ulong text) := by
  unfold parseVideoSize
  rw [numeral_or_zero]
  dsimp only
  split
  · exact .inl rfl
  · rename_i accepted
    simp only [not_or, not_not, Nat.not_lt] at accepted
    obtain ⟨nonzero, secondNonzero, ended, within, secondWithin⟩ := accepted
    obtain ⟨letter, right, rest, isLetter, second⟩ := parseVideoHeight_cases secondNonzero
    rw [second] at secondNonzero ended secondWithin ⊢
    have split : text = text.takeWhile isDigit ++ letter :: right := by
      rw [← rest]
      exact List.takeWhile_append_dropWhile.symm
    have terminatedRight : 0 ∉ right := by
      intro member
      apply terminated
      rw [split]
      exact List.mem_append_right _ (List.mem_cons_of_mem _ member)
    have small : videoMaxDim < 4294967295 := by decide
    have numeral := takeWhile_isNumeral secondNonzero
    have height := eq_of_min_le small secondWithin
    rw [takeWhile_eq_self terminatedRight ended] at numeral secondNonzero secondWithin height ⊢
    exact .inr ⟨_, letter, right, split, takeWhile_isNumeral nonzero, numeral, isLetter,
      (eq_of_min_le small within).symm, height.symm,
      ⟨Nat.one_le_iff_ne_zero.mpr nonzero, within⟩,
      Nat.one_le_iff_ne_zero.mpr secondNonzero, secondWithin⟩

/-! ## What becomes of the codecs -/

/-- What the two variables make of a codec's parameters: an accepted size and an accepted
frame rate are applied, each on its own, and nothing else changes. -/
structure Overridden {Rest : Type} (sizeStr fpsStr : Option CString)
    (before after : VidCodecParam Rest) : Prop where
  size : ∀ size, Gives IsVideoSize sizeStr size → (after.width, after.height) = size
  sizeKept : (∀ size, ¬Gives IsVideoSize sizeStr size) →
    after.width = before.width ∧ after.height = before.height
  fps : ∀ fps, Gives IsVideoFps fpsStr fps → after.fps.num = fps ∧ after.fps.denum = 1
  fpsKept : (∀ fps, ¬Gives IsVideoFps fpsStr fps) → after.fps = before.fps
  rest : after.rest = before.rest

section Codecs

variable {sizeStr fpsStr : Option CString}

/-- The parsed size is the one that the variable gives, or there is none. -/
theorem videoFormat_size (ulong : ULong) (sizeStr fpsStr : Option CString) :
    let format := videoFormat ulong sizeStr fpsStr
    format.width ≠ 0 ∧
        (∀ size, Gives IsVideoSize sizeStr size ↔ size = (format.width, format.height)) ∨
      format.width = 0 ∧ ∀ size, ¬Gives IsVideoSize sizeStr size := by
  cases sizeStr with
  | none => exact .inr ⟨rfl, fun size => nofun⟩
  | some text =>
      obtain refused | accepted := parseVideoSize_cases ulong text.terminated
      · refine .inr ⟨congrArg Prod.fst refused, ?_⟩
        rintro size ⟨_, ⟨⟩, given⟩
        have applied := parseVideoSize_of_isVideoSize ulong given
        obtain ⟨-, -, -, -, -, -, -, -, -, ⟨positive, -⟩, -⟩ := given
        rw [← applied, refused] at positive
        exact absurd positive (by decide)
      · refine .inl ⟨?_, fun size => ⟨?_, ?_⟩⟩
        · obtain ⟨-, -, -, -, -, -, -, -, -, ⟨positive, -⟩, -⟩ := accepted
          exact Nat.ne_of_gt positive
        · rintro ⟨_, ⟨⟩, given⟩
          exact (parseVideoSize_of_isVideoSize ulong given).symm
        · rintro rfl
          exact ⟨text, rfl, accepted⟩

/-- The parsed frame rate is the one that the variable gives, or there is none. -/
theorem videoFormat_fps (ulong : ULong) (sizeStr fpsStr : Option CString) :
    let format := videoFormat ulong sizeStr fpsStr
    format.fps ≠ 0 ∧ (∀ fps, Gives IsVideoFps fpsStr fps ↔ fps = format.fps) ∨
      format.fps = 0 ∧ ∀ fps, ¬Gives IsVideoFps fpsStr fps := by
  cases fpsStr with
  | none => exact .inr ⟨rfl, fun fps => nofun⟩
  | some text =>
      obtain refused | accepted := parseVideoFps_cases ulong text.terminated
      · refine .inr ⟨refused, ?_⟩
        rintro fps ⟨_, ⟨⟩, given⟩
        have applied := parseVideoFps_of_isVideoFps ulong given
        have positive := given.2.2.1
        rw [← applied, refused] at positive
        exact absurd positive (by decide)
      · refine .inl ⟨Nat.ne_of_gt accepted.2.2.1, fun fps => ⟨?_, ?_⟩⟩
        · rintro ⟨_, ⟨⟩, given⟩
          exact (parseVideoFps_of_isVideoFps ulong given).symm
        · rintro rfl
          exact ⟨text, rfl, accepted⟩

variable {Rest : Type}

theorem VideoFormat.override_overridden (ulong : ULong) (sizeStr fpsStr : Option CString)
    (param : VidCodecParam Rest) :
    Overridden sizeStr fpsStr param ((videoFormat ulong sizeStr fpsStr).override param) := by
  unfold override
  dsimp only
  refine ⟨?_, ?_, ?_, ?_, ?_⟩
  · intro size given
    obtain ⟨applied, gives⟩ | ⟨-, refused⟩ := videoFormat_size ulong sizeStr fpsStr
    · rw [(gives size).mp given, if_pos applied]
      split <;> rfl
    · exact absurd given (refused size)
  · intro refused
    obtain ⟨-, gives⟩ | ⟨absent, -⟩ := videoFormat_size ulong sizeStr fpsStr
    · exact absurd ((gives _).mpr rfl) (refused _)
    · rw [if_neg (not_not.mpr absent)]
      split <;> exact ⟨rfl, rfl⟩
  · intro fps given
    obtain ⟨applied, gives⟩ | ⟨-, refused⟩ := videoFormat_fps ulong sizeStr fpsStr
    · rw [(gives fps).mp given, if_pos applied]
      exact ⟨rfl, rfl⟩
    · exact absurd given (refused fps)
  · intro refused
    obtain ⟨-, gives⟩ | ⟨absent, -⟩ := videoFormat_fps ulong sizeStr fpsStr
    · exact absurd ((gives _).mpr rfl) (refused _)
    · rw [if_neg (not_not.mpr absent)]
      split <;> rfl
  · split <;> split <;> rfl

/-- Parameters that have been written once stay as they are. -/
theorem VideoFormat.override_override (format : VideoFormat) (param : VidCodecParam Rest) :
    format.override (format.override param) = format.override param := by
  unfold override
  by_cases sized : format.width ≠ 0 <;> by_cases paced : format.fps ≠ 0 <;> simp [sized, paced]

variable {Id : Type}

/-- The parameters of a codec after `pjsua_vid_codec_set_param` has been asked to override
them. -/
def VideoFormat.settled (format : VideoFormat) (codecs : VidCodecs Id Rest) (id : Id)
    (param : VidCodecParam Rest) : VidCodecParam Rest :=
  if codecs.setStatus id (format.override param) = .success then format.override param else param

/-- The request for a codec, if its parameters can be read. -/
def VideoFormat.request (format : VideoFormat) (codecs : VidCodecs Id Rest) (id : Id) :
    Option (Id × VidCodecParam Rest) :=
  (codecs.param id).toOption.map fun param => (id, format.override param)

variable {format : VideoFormat} {codecs : VidCodecs Id Rest}

theorem VideoFormat.override_settled (id : Id) (param : VidCodecParam Rest) :
    format.override (format.settled codecs id param) = format.override param := by
  unfold settled
  split
  · exact override_override format param
  · rfl

theorem VideoFormat.settled_settled (id : Id) (param : VidCodecParam Rest) :
    format.settled codecs id (format.settled codecs id param) =
      format.settled codecs id param := by
  rw [settled, override_settled]
  unfold settled
  split <;> rfl

variable [DecidableEq Id]

/-- One pass asks for one codec and changes that codec only. -/
theorem VideoFormat.overrideCodec_spec (format : VideoFormat) (codecs : VidCodecs Id Rest)
    (id : Id) :
    (format.overrideCodec codecs id).setStatus = codecs.setStatus ∧
    (format.overrideCodec codecs id).requests =
      codecs.requests ++ (format.request codecs id).toList ∧
    ∀ other, (format.overrideCodec codecs id).param other =
      if other = id then (codecs.param id).map (format.settled codecs id)
      else codecs.param other := by
  unfold overrideCodec request
  cases read : codecs.param id with
  | error status =>
      refine ⟨rfl, (List.append_nil _).symm, fun other => ?_⟩
      by_cases same : other = id
      · rw [if_pos same, same]
        exact read
      · rw [if_neg same]
  | ok param =>
      refine ⟨rfl, rfl, fun other => ?_⟩
      unfold VidCodecs.setParam settled
      dsimp only [Except.map]
      by_cases accepted : codecs.setStatus id (format.override param) = .success
      · rw [if_pos accepted]
        by_cases same : other = id
        · rw [same, Function.update_self, if_pos rfl, if_pos accepted]
        · rw [Function.update_of_ne same, if_neg same]
      · rw [if_neg accepted]
        by_cases same : other = id
        · rw [same, read, if_pos rfl, if_neg accepted]
        · rw [if_neg same]

/-- The loop asks for every codec in turn and changes the listed codecs only, also when one
is listed twice. -/
theorem VideoFormat.foldl_overrideCodec (format : VideoFormat) (ids : List Id)
    (codecs : VidCodecs Id Rest) :
    (ids.foldl format.overrideCodec codecs).requests =
      codecs.requests ++ ids.filterMap (format.request codecs) ∧
    ∀ id, (ids.foldl format.overrideCodec codecs).param id =
      if id ∈ ids then (codecs.param id).map (format.settled codecs id) else codecs.param id := by
  induction ids generalizing codecs with
  | nil => exact ⟨(List.append_nil _).symm, fun id => rfl⟩
  | cons first rest ih =>
      obtain ⟨status, requests, param⟩ := format.overrideCodec_spec codecs first
      have settles : format.settled (format.overrideCodec codecs first) =
          format.settled codecs := by
        funext id param
        unfold settled
        rw [status]
      have asks : format.request (format.overrideCodec codecs first) = format.request codecs := by
        funext id
        unfold request
        rw [param]
        split
        · rename_i same
          rw [same]
          cases codecs.param first with
          | error => rfl
          | ok param =>
              simp only [Except.map, Except.toOption, Option.map_some, override_settled]
        · rfl
      obtain ⟨ihRequests, ihParam⟩ := ih (format.overrideCodec codecs first)
      rw [asks, requests, List.append_assoc] at ihRequests
      refine ⟨?_, fun id => ?_⟩
      · rw [List.foldl_cons, ihRequests, List.filterMap_cons]
        cases format.request codecs first <;> rfl
      · rw [List.foldl_cons, ihParam, settles, param]
        by_cases same : id = first
        · subst same
          rw [if_pos rfl, if_pos List.mem_cons_self]
          split
          · cases codecs.param id with
            | error => rfl
            | ok param => simp only [Except.map, settled_settled]
          · rfl
        · rw [if_neg same]
          simp only [List.mem_cons, same, false_or]

/-- For every pair of variables and every list of codecs: every codec whose parameters can be
read is given, with one call of `pjsua_vid_codec_set_param`, exactly what the accepted
variables say; without an accepted variable nothing is done, and other codecs are left
alone. -/
theorem video_format_applied (ulong : ULong) (sizeStr fpsStr : Option CString) (ids : List Id)
    (listed : VidCodecs Id Rest) :
    let codecs := { listed with enumCodecs := .ok ids }
    let after := applyVideoFormatOverride ulong sizeStr fpsStr codecs
    ∃ override : VidCodecParam Rest → VidCodecParam Rest,
      (∀ param, Overridden sizeStr fpsStr param (override param)) ∧
      ((∃ size, Gives IsVideoSize sizeStr size) ∨ (∃ fps, Gives IsVideoFps fpsStr fps) →
        after.requests = codecs.requests ++ ids.filterMap fun id =>
          (codecs.param id).toOption.map fun param => (id, override param)) ∧
      ((∀ size, ¬Gives IsVideoSize sizeStr size) → (∀ fps, ¬Gives IsVideoFps fpsStr fps) →
        after = codecs) ∧
      (∀ id ∈ ids, after.param id = (codecs.param id).map fun param =>
        if codecs.setStatus id (override param) = .success then override param else param) ∧
      ∀ id ∉ ids, after.param id = codecs.param id := by
  intro codecs after
  let format := videoFormat ulong sizeStr fpsStr
  obtain ⟨requests, params⟩ := format.foldl_overrideCodec ids codecs
  refine ⟨format.override, VideoFormat.override_overridden ulong sizeStr fpsStr, ?_⟩
  by_cases idle : format.width = 0 ∧ format.fps = 0
  · have same : after = codecs := if_pos idle
    have nothing (param : VidCodecParam Rest) : format.override param = param := by
      unfold VideoFormat.override
      rw [if_neg (not_not.mpr idle.1), if_neg (not_not.mpr idle.2)]
    refine ⟨?_, fun _ _ => same, fun id member => ?_, fun id _ => congrFun (congrArg _ same) id⟩
    · rintro (⟨size, given⟩ | ⟨fps, given⟩)
      · obtain ⟨applied, -⟩ | ⟨-, refused⟩ := videoFormat_size ulong sizeStr fpsStr
        · exact absurd idle.1 applied
        · exact absurd given (refused size)
      · obtain ⟨applied, -⟩ | ⟨-, refused⟩ := videoFormat_fps ulong sizeStr fpsStr
        · exact absurd idle.2 applied
        · exact absurd given (refused fps)
    · rw [same]
      cases codecs.param id with
      | error => rfl
      | ok param => simp [Except.map, nothing]
  · have same : after = ids.foldl format.overrideCodec codecs := if_neg idle
    refine ⟨fun _ => ?_, ?_, fun id member => ?_, fun id absent => ?_⟩
    · rw [same, requests]
      rfl
    · intro unsized unpaced
      obtain ⟨-, gives⟩ | ⟨width, -⟩ := videoFormat_size ulong sizeStr fpsStr
      · exact absurd ((gives _).mpr rfl) (unsized _)
      · obtain ⟨-, gives⟩ | ⟨fps, -⟩ := videoFormat_fps ulong sizeStr fpsStr
        · exact absurd ((gives _).mpr rfl) (unpaced _)
        · exact absurd ⟨width, fps⟩ idle
    · rw [same, params, if_pos member]
      rfl
    · rw [same, params, if_neg absent]

end Codecs
end Pjsocky
