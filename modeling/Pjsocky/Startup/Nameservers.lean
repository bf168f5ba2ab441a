import Pjsocky.Base
import Pjsocky.Support.CString
import Pjsocky.Support.LineBuffer

/-!
# The nameservers

`configure_nameservers` of `main.c`: it fills pjsua's list of nameservers from
`PJSOCKY_NAMESERVER` or from the `nameserver` lines of `resolv.conf`, through one buffer of
512 characters. The functions work on any symbols that have a byte, so that the same
definitions run on the bytes of a source and on its bytes with their places (`located`).
`intendedNameservers` is what the list is for, and `NothingCut` says when the buffer does not
show.
-/

namespace Pjsocky

open Support

/-- `PJ_ARRAY_SIZE(ua_cfg->nameserver)`. -/
def nameserverMax : Nat := 4

/-- `sizeof(buf)`. -/
def nameserverBufSize : Nat := 512

theorem nameserverBuf_large : 1 < nameserverBufSize := by decide

/-- The delimiters of `PJSOCKY_NAMESERVER`. -/
def isListDelim (char : UInt8) : Bool := char = 32 || char = 44

/-- The delimiters of a line of `PJSOCKY_RESOLV_CONF`. -/
def isLineDelim (char : UInt8) : Bool := char = 32 || char = 9 || char = 13 || char = 10

/-- What ends a line. -/
def isLineFeed (char : UInt8) : Bool := char = 10

variable {Symbol : Type}

section Model

variable (byte : Symbol → UInt8)

/-- The loop over the tokens of `env`, with `room` left in `ua_cfg->nameserver`. -/
def storeTokens (room : Nat) (save : List Symbol) : List (List Symbol) :=
  match strtokR (isListDelim ∘ byte) save with
  | none => []
  | some (tok, save) =>
      match room with
      | 0 => []
      | room + 1 => tok :: storeTokens room save

/-- The C string in a buffer. -/
def cString (buf : List Symbol) : List Symbol := buf.takeWhile (byte · ≠ 0)

/-- What one reading of `PJSOCKY_RESOLV_CONF` names. -/
def readNameserver (buf : List Symbol) : Option (List Symbol) :=
  match strtokR (isLineDelim ∘ byte) (cString byte buf) with
  | none => none
  | some (tok, save) =>
      if tok.map byte ≠ ascii "nameserver" then none
      else (strtokR (isLineDelim ∘ byte) save).map Prod.fst

/-- The loop over the readings of `PJSOCKY_RESOLV_CONF`. -/
def readResolvConf (room : Nat) (stream : List Symbol) : List (List Symbol) :=
  match _ : fgets (isLineFeed ∘ byte) nameserverBufSize stream with
  | none => []
  | some (buf, stream) =>
      if room = 0 then []
      else
        match readNameserver byte buf with
        | none => readResolvConf room stream
        | some tok => tok :: readResolvConf (room - 1) stream
termination_by stream.length
decreasing_by all_goals exact fgets_shorter nameserverBuf_large ‹_›

/-- `configure_nameservers`: the list in `ua_cfg` for the value of `PJSOCKY_NAMESERVER`, if it
is set, and the content of `PJSOCKY_RESOLV_CONF`, if it can be opened. -/
def configureNameservers (env resolvConf : Option (List Symbol)) : List (List Symbol) :=
  match env.filter (!·.isEmpty) with
  | some value => storeTokens byte nameserverMax (value.take (nameserverBufSize - 1))
  | none => (resolvConf.map (readResolvConf byte nameserverMax)).getD []

end Model

/-! ## What the list is for -/

section Spec

variable (byte : Symbol → UInt8)

/-- The nameserver of a line: its second word, when the first is `nameserver`. -/
def lineServer (line : List Symbol) : Option (List Symbol) :=
  match words (isLineDelim ∘ byte) line with
  | keyword :: server :: _ => if keyword.map byte = ascii "nameserver" then some server else none
  | _ => none

/-- The first four nameservers that the source names. -/
def intendedNameservers (env resolvConf : Option (List Symbol)) : List (List Symbol) :=
  match env.filter (!·.isEmpty) with
  | some value => (words (isListDelim ∘ byte) value).take nameserverMax
  | none =>
      (resolvConf.map fun content =>
        ((content.splitOnP (isLineFeed ∘ byte)).filterMap (lineServer byte)).take
          nameserverMax).getD []

end Spec

/-- Every byte of a text with its place. -/
def located (text : Bytes) : List (UInt8 × Nat) := text.zipIdx

/-- The list is the intended one, and every entry was taken from where it stands in the
source. -/
structure ExactlyStored (env : Option CString) (resolvConf : Option Bytes) : Prop where
  values : configureNameservers id (env.map CString.bytes) resolvConf =
    intendedNameservers id (env.map CString.bytes) resolvConf
  places : configureNameservers Prod.fst ((env.map CString.bytes).map located)
      (resolvConf.map located) =
    intendedNameservers Prod.fst ((env.map CString.bytes).map located) (resolvConf.map located)

/-! ## When the buffer does not show -/

section Cut

variable (byte : Symbol → UInt8)

/-- What the buffer can hold of a line at a time, up to a NUL. -/
def lineParts (line : List Symbol) : List (List Symbol) :=
  (parts (nameserverBufSize - 1) line).map (cString byte)

/-- The first two words of a line lie within a part of it. -/
def Holds (line part : List Symbol) : Prop :=
  ∀ word ∈ (words (isLineDelim ∘ byte) line).take 2, ∀ symbol ∈ word, symbol ∈ part

/-- With room for `room` more nameservers, one part of a line that names a nameserver has its
first two words, and unless that takes the last room, no other part names one. -/
structure LineIntact (room : Nat) (line : List Symbol) : Prop where
  whole : 0 < room → (lineServer byte line).isSome →
    ∃ part ∈ lineParts byte line, Holds byte line part
  apart : (lineServer byte line).toList.length < room → ∀ part ∈ lineParts byte line,
    (lineServer byte part).isSome → (lineServer byte line).isSome ∧ Holds byte line part

end Cut

/-- The first four words of the variable lie within its first 511 characters; without it,
every line of the file is intact until four nameservers are found. -/
structure NothingCut (env : Option CString) (resolvConf : Option Bytes) : Prop where
  value : ∀ value ∈ env.map CString.bytes,
    ∀ word ∈ (words (isListDelim ∘ Prod.fst) (located value)).take nameserverMax,
      ∀ symbol ∈ word, symbol.2 < nameserverBufSize - 1
  lines : (env.map CString.bytes).filter (!·.isEmpty) = none → ∀ content ∈ resolvConf,
    ∀ before line after,
      (located content).splitOnP (isLineFeed ∘ Prod.fst) = before ++ line :: after →
        LineIntact Prod.fst
          (nameserverMax - (before.filterMap (lineServer Prod.fst)).length) line

/-! ## The loops -/

section Loops

variable {byte : Symbol → UInt8}

theorem storeTokens_eq (room : Nat) (save : List Symbol) :
    storeTokens byte room save = (words (isListDelim ∘ byte) save).take room := by
  induction room generalizing save with
  | zero =>
      rw [storeTokens, List.take_zero]
      split <;> rfl
  | succ room ih =>
      rw [storeTokens, words_eq_strtokR]
      cases strtokR (isListDelim ∘ byte) save with
      | none => rfl
      | some next =>
          dsimp only
          rw [List.take_succ_cons, ih]

/-- A reading is used as the line it looks like. -/
theorem readNameserver_eq (buf : List Symbol) :
    readNameserver byte buf = lineServer byte (cString byte buf) := by
  rw [readNameserver, lineServer, words_eq_strtokR]
  cases strtokR (isLineDelim ∘ byte) (cString byte buf) with
  | none => rfl
  | some first =>
      dsimp only
      rw [words_eq_strtokR]
      cases strtokR (isLineDelim ∘ byte) first.2 with
      | none => rw [Option.map_none, ite_self]
      | some second =>
          dsimp only
          rw [ite_not, Option.map_some]

/-- A NUL before the line feed hides it, and otherwise it is a delimiter. -/
theorem readNameserver_concat {part : List Symbol} {newline : Symbol}
    (isOne : (isLineFeed ∘ byte) newline = true) :
    readNameserver byte (part ++ [newline]) = readNameserver byte part := by
  have isFeed : byte newline = 10 := by simpa [isLineFeed] using isOne
  have isDelim : (isLineDelim ∘ byte) newline = true := by simp [isLineDelim, isFeed]
  rw [readNameserver_eq, readNameserver_eq, cString, cString]
  rw [List.takeWhile_append]
  split
  · rename_i whole
    have kept : part.takeWhile (byte · ≠ 0) = part :=
      (List.takeWhile_prefix _).eq_of_length whole
    have visible : decide (byte newline ≠ 0) = true := by rw [isFeed]; rfl
    rw [kept, List.takeWhile_cons, if_pos visible, List.takeWhile_nil, lineServer, lineServer,
      words_concat_delim isDelim]
  · rfl

theorem readResolvConf_eq (room : Nat) (stream : List Symbol) :
    readResolvConf byte room stream =
      ((pieces (isLineFeed ∘ byte) nameserverBufSize nameserverBuf_large stream).filterMap
        (readNameserver byte)).take room := by
  induction size : stream.length using Nat.strongRecOn generalizing room stream with
  | _ bound ih =>
      rw [readResolvConf, pieces_eq]
      split
      · rename_i ended
        rw [ended]
        exact List.take_nil.symm
      · rename_i buf rest read
        rw [read]
        have shorter : rest.length < bound := size ▸ fgets_shorter nameserverBuf_large read
        dsimp only
        rw [List.filterMap_cons]
        cases room with
        | zero => rfl
        | succ room =>
            rw [if_neg (Nat.succ_ne_zero room)]
            cases readNameserver byte buf with
            | none => exact ih _ shorter _ _ rfl
            | some tok =>
                dsimp only
                rw [List.take_succ_cons, Nat.add_sub_cancel, ih _ shorter _ _ rfl]

/-- The file is used part by part. -/
theorem readResolvConf_lines (room : Nat) (stream : List Symbol) :
    readResolvConf byte room stream =
      ((stream.splitOnP (isLineFeed ∘ byte)).flatMap fun line =>
        (lineParts byte line).filterMap (lineServer byte)).take room := by
  have asLines : (lineServer byte) ∘ cString byte = readNameserver byte :=
    funext fun buf => (readNameserver_eq buf).symm
  rw [readResolvConf_eq, filterMap_pieces nameserverBuf_large
    (fun part newline isOne => readNameserver_concat isOne) rfl]
  simp only [lineParts, List.filterMap_map, asLines]

end Loops

/-! ## One line -/

section Line

variable {byte : Symbol → UInt8} {line part server : List Symbol}

theorem lineServer_eq_some : lineServer byte line = some server ↔
    ∃ keyword more, words (isLineDelim ∘ byte) line = keyword :: server :: more ∧
      keyword.map byte = ascii "nameserver" := by
  rw [lineServer]
  constructor
  · intro isServer
    split at isServer
    · rename_i keyword second more isWords
      split at isServer
      · rename_i isKeyword
        cases isServer
        exact ⟨keyword, more, isWords, isKeyword⟩
      · cases isServer
    · cases isServer
  · rintro ⟨keyword, more, isWords, isKeyword⟩
    rw [isWords]
    exact if_pos isKeyword

/-- A nameserver is made of characters of its line. -/
theorem lineServer_inside (isServer : lineServer byte line = some server) :
    server ≠ [] ∧ ∀ symbol ∈ server, symbol ∈ line := by
  obtain ⟨keyword, more, isWords, -⟩ := lineServer_eq_some.mp isServer
  have member : server ∈ words (isLineDelim ∘ byte) line := by
    rw [isWords]
    exact List.mem_cons_of_mem _ List.mem_cons_self
  obtain ⟨⟨nonempty, -⟩, inside⟩ := mem_words member
  exact ⟨nonempty, inside⟩

/-- What lies before and after a part of a line. -/
theorem exists_around {front back : List (List Symbol)}
    (isParts : lineParts byte line = front ++ part :: back) :
    ∃ before after, line = before ++ (part ++ after) ∧
      (∀ other ∈ front, ∀ symbol ∈ other, symbol ∈ before) ∧
      ∀ other ∈ back, ∀ symbol ∈ other, symbol ∈ after := by
  obtain ⟨bufs, later, isSplit, rfl, isLater⟩ := List.map_eq_append_iff.mp isParts
  obtain ⟨buf, laterBufs, rfl, rfl, rfl⟩ := List.map_eq_cons_iff.mp isLater
  have inBufs {bufs : List (List Symbol)} : ∀ other ∈ bufs.map (cString byte),
      ∀ symbol ∈ other, symbol ∈ bufs.flatten := by
    intro other member symbol inOther
    obtain ⟨source, inList, rfl⟩ := List.mem_map.mp member
    exact List.mem_flatten.mpr ⟨source, inList, (List.takeWhile_prefix _).mem inOther⟩
  refine ⟨bufs.flatten, buf.dropWhile (byte · ≠ 0) ++ laterBufs.flatten, ?_, inBufs,
    fun other member symbol inOther => List.mem_append_right _ (inBufs other member symbol inOther)⟩
  rw [← flatten_parts (by decide : 0 < nameserverBufSize - 1) line, isSplit,
    List.flatten_append, List.flatten_cons, cString, ← List.append_assoc (buf.takeWhile _),
    List.takeWhile_append_dropWhile]

/-- A part names the nameserver of its line exactly when it has the first two words. -/
theorem lineServer_part {before after : List Symbol}
    (distinct : (before ++ (part ++ after)).Nodup)
    (isServer : lineServer byte (before ++ (part ++ after)) = some server) :
    lineServer byte part = some server ↔ Holds byte (before ++ (part ++ after)) part := by
  obtain ⟨keyword, more, isWords, isKeyword⟩ := lineServer_eq_some.mp isServer
  unfold Holds
  constructor
  · intro partServer
    obtain ⟨keyword', more', ofPart, isKeyword'⟩ := lineServer_eq_some.mp partServer
    have sameLength : keyword'.length = keyword.length := by
      rw [← List.length_map (f := byte), isKeyword', ← isKeyword, List.length_map]
    obtain rfl := first_word_part distinct isWords ofPart sameLength
    rw [isWords]
    intro word isFirst
    have member : word ∈ words (isLineDelim ∘ byte) part := by
      rw [ofPart]
      exact List.mem_of_mem_take (i := 2) isFirst
    exact (mem_words member).2
  · intro within
    rw [isWords] at within
    have same := take_words_part distinct isWords within
    have ofPart := List.take_append_drop 2 (words (isLineDelim ∘ byte) part)
    rw [same] at ofPart
    exact lineServer_eq_some.mpr ⟨keyword, _, ofPart.symm, isKeyword⟩

/-- The parts before the one with the first two words are blank. -/
theorem lineServer_before {before after other : List Symbol}
    (distinct : (before ++ (part ++ after)).Nodup)
    (isServer : lineServer byte (before ++ (part ++ after)) = some server)
    (holds : Holds byte (before ++ (part ++ after)) part)
    (inside : ∀ symbol ∈ other, symbol ∈ before) : lineServer byte other = none := by
  obtain ⟨keyword, more, isWords, -⟩ := lineServer_eq_some.mp isServer
  have separate := List.disjoint_of_nodup_append distinct
  unfold Holds at holds
  rw [isWords] at holds
  have blank := blank_of_first isWords fun symbol inKeyword inBefore =>
    separate inBefore (List.mem_append_left _ (holds keyword List.mem_cons_self symbol inKeyword))
  rw [lineServer, words_blanks fun symbol inOther => blank symbol (inside symbol inOther)]

/-- No later part has the first two words as well. -/
theorem not_holds_after {before after other : List Symbol}
    (distinct : (before ++ (part ++ after)).Nodup)
    (isServer : lineServer byte (before ++ (part ++ after)) = some server)
    (holds : Holds byte (before ++ (part ++ after)) part)
    (inside : ∀ symbol ∈ other, symbol ∈ after) :
    ¬Holds byte (before ++ (part ++ after)) other := by
  intro again
  obtain ⟨keyword, more, isWords, -⟩ := lineServer_eq_some.mp isServer
  have separate := List.disjoint_of_nodup_append (List.nodup_append'.mp distinct).2.1
  have member : keyword ∈ words (isLineDelim ∘ byte) (before ++ (part ++ after)) := by
    rw [isWords]
    exact List.mem_cons_self
  obtain ⟨⟨nonempty, -⟩, -⟩ := mem_words member
  obtain ⟨symbol, inKeyword⟩ := List.exists_mem_of_ne_nil keyword nonempty
  unfold Holds at holds again
  rw [isWords] at holds again
  exact separate (holds keyword List.mem_cons_self symbol inKeyword)
    (inside symbol (again keyword List.mem_cons_self symbol inKeyword))

/-- A line that names no nameserver is intact when its parts name none. -/
theorem lineIntact_iff_none (none : lineServer byte line = none) (room : Nat) :
    (lineParts byte line).filterMap (lineServer byte) = [] ↔ LineIntact byte (room + 1) line := by
  rw [List.filterMap_eq_nil_iff]
  constructor
  · intro silent
    refine ⟨fun _ named => ?_, fun _ part isPart named => ?_⟩
    · rw [none] at named
      cases named
    · rw [silent part isPart] at named
      cases named
  · intro intact part isPart
    cases stray : lineServer byte part with
    | none => rfl
    | some server =>
        have named := (intact.apart (by rw [none]; exact Nat.succ_pos room) part isPart
          (by rw [stray]; rfl)).1
        rw [none] at named
        cases named

theorem holds_of_mem (distinct : line.Nodup) (isServer : lineServer byte line = some server)
    (isPart : part ∈ lineParts byte line) (partServer : lineServer byte part = some server) :
    Holds byte line part := by
  obtain ⟨front, back, isParts⟩ := List.append_of_mem isPart
  obtain ⟨before, after, rfl, -⟩ := exists_around isParts
  exact (lineServer_part distinct isServer).mp partServer

/-- A line whose parts name its nameserver and, with more room, nothing else is intact. -/
theorem LineIntact.of_take (distinct : line.Nodup) (isServer : lineServer byte line = some server)
    {room : Nat}
    (same : ((lineParts byte line).filterMap (lineServer byte)).take (room + 1) = [server]) :
    LineIntact byte (room + 1) line := by
  cases named : (lineParts byte line).filterMap (lineServer byte) with
  | nil =>
      rw [named] at same
      cases same
  | cons first strays =>
      rw [named, List.take_succ_cons] at same
      obtain ⟨rfl, noStrays⟩ := List.cons.inj same
      have found : first ∈ (lineParts byte line).filterMap (lineServer byte) := by
        rw [named]
        exact List.mem_cons_self
      obtain ⟨part, isPart, partServer⟩ := List.mem_filterMap.mp found
      refine ⟨fun _ _ => ⟨part, isPart, holds_of_mem distinct isServer isPart partServer⟩,
        fun roomLeft other isOther otherNamed => ⟨by rw [isServer]; rfl, ?_⟩⟩
      rw [isServer] at roomLeft
      have empty : strays = [] :=
        (List.take_eq_nil_iff.mp noStrays).resolve_left
          (Nat.ne_of_gt (Nat.lt_of_succ_lt_succ roomLeft))
      obtain ⟨stray, isStray⟩ := Option.isSome_iff_exists.mp otherNamed
      have member : stray ∈ (lineParts byte line).filterMap (lineServer byte) :=
        List.mem_filterMap.mpr ⟨other, isOther, isStray⟩
      rw [named, empty, List.mem_singleton] at member
      exact holds_of_mem distinct isServer isOther (member ▸ isStray)

/-- A line that names a nameserver is intact when its parts name it and, with more room,
nothing else. -/
theorem lineIntact_iff_some (distinct : line.Nodup) (isServer : lineServer byte line = some server)
    (room : Nat) :
    ((lineParts byte line).filterMap (lineServer byte)).take (room + 1) = [server] ↔
      LineIntact byte (room + 1) line := by
  constructor
  · exact LineIntact.of_take distinct isServer
  · intro intact
    obtain ⟨part, isPart, holds⟩ := intact.whole (Nat.succ_pos room) (by rw [isServer]; rfl)
    obtain ⟨front, back, isParts⟩ := List.append_of_mem isPart
    obtain ⟨before, after, rfl, inFront, inBack⟩ := exists_around isParts
    have silent : front.filterMap (lineServer byte) = [] :=
      List.filterMap_eq_nil_iff.mpr fun other member =>
        lineServer_before distinct isServer holds (inFront other member)
    have named := (lineServer_part distinct isServer).mpr holds
    rw [isParts, List.filterMap_append, silent, List.nil_append, List.filterMap_cons_some named,
      List.take_succ_cons, List.cons_inj_right, List.take_eq_nil_iff]
    by_cases last : room = 0
    · exact .inl last
    · refine .inr (List.filterMap_eq_nil_iff.mpr fun other member => ?_)
      by_contra stray
      have roomLeft : (lineServer byte (before ++ (part ++ after))).toList.length < room + 1 := by
        rw [isServer]
        exact Nat.succ_lt_succ (Nat.pos_of_ne_zero last)
      have isOther : other ∈ lineParts byte (before ++ (part ++ after)) := by
        rw [isParts]
        exact List.mem_append_right _ (List.mem_cons_of_mem _ member)
      have again := intact.apart roomLeft other isOther (Option.isSome_iff_ne_none.mpr stray)
      exact not_holds_after distinct isServer holds (inBack other member) again.2

/-- The parts of an intact line, and of no other, give what the line gives. -/
theorem lineIntact_iff (distinct : line.Nodup) (room : Nat) :
    ((lineParts byte line).filterMap (lineServer byte)).take room =
      (lineServer byte line).toList.take room ↔ LineIntact byte room line := by
  cases room with
  | zero =>
      exact iff_of_true rfl ⟨fun noRoom => absurd noRoom (Nat.lt_irrefl 0),
        fun noRoom => absurd noRoom (Nat.not_lt_zero _)⟩
  | succ room =>
      cases isServer : lineServer byte line with
      | none =>
          rw [← lineIntact_iff_none isServer, Option.toList_none, List.take_nil,
            List.take_eq_nil_iff]
          exact or_iff_right (Nat.succ_ne_zero room)
      | some server =>
          rw [← lineIntact_iff_some distinct isServer, Option.toList_some, List.take_succ_cons,
            List.take_nil]

/-- No two lines have a result in common. -/
theorem results_apart {lines : List (List Symbol)} (distinct : lines.flatten.Nodup) :
    lines.Pairwise fun line later =>
      (∀ server ∈ (lineParts byte line).filterMap (lineServer byte),
        lineServer byte later ≠ some server) ∧
      ∀ server ∈ (lineParts byte later).filterMap (lineServer byte),
        lineServer byte line ≠ some server := by
  have fromParts {line : List Symbol} :
      ∀ server ∈ (lineParts byte line).filterMap (lineServer byte), server ≠ [] ∧
        ∀ symbol ∈ server, symbol ∈ line := by
    intro server member
    obtain ⟨part, isPart, named⟩ := List.mem_filterMap.mp member
    obtain ⟨front, back, isParts⟩ := List.append_of_mem isPart
    obtain ⟨before, after, rfl, -⟩ := exists_around isParts
    obtain ⟨nonempty, inside⟩ := lineServer_inside named
    exact ⟨nonempty, fun symbol inServer =>
      List.mem_append_right _ (List.mem_append_left _ (inside symbol inServer))⟩
  refine (List.nodup_flatten.mp distinct).2.imp fun {line later} separate => ⟨?_, ?_⟩
  · intro server member named
    obtain ⟨nonempty, inLine⟩ := fromParts server member
    obtain ⟨symbol, inServer⟩ := List.exists_mem_of_ne_nil server nonempty
    exact separate (inLine symbol inServer) ((lineServer_inside named).2 symbol inServer)
  · intro server member named
    obtain ⟨nonempty, inLater⟩ := fromParts server member
    obtain ⟨symbol, inServer⟩ := List.exists_mem_of_ne_nil server nonempty
    exact separate ((lineServer_inside named).2 symbol inServer) (inLater symbol inServer)

end Line

/-! ## Places -/

section Places

variable {Place : Type} (byte : Symbol → UInt8) (f : Place → Symbol)

theorem lineServer_map (line : List Place) :
    lineServer byte (line.map f) = (lineServer (byte ∘ f) line).map (List.map f) := by
  rw [lineServer, lineServer, words_map, Function.comp_assoc]
  cases words (isLineDelim ∘ byte ∘ f) line with
  | nil => rfl
  | cons keyword rest =>
      cases rest with
      | nil => rfl
      | cons server more =>
          simp only [List.map_cons, List.map_map]
          split <;> rfl

theorem lineParts_map (line : List Place) :
    lineParts byte (line.map f) = (lineParts (byte ∘ f) line).map (List.map f) := by
  rw [lineParts, lineParts, parts_map f (by decide), List.map_map, List.map_map]
  refine List.map_congr_left fun buf _ => ?_
  exact List.takeWhile_map ..

theorem filterMap_lineServer_map (lines : List (List Place)) :
    (lines.map (List.map f)).filterMap (lineServer byte) =
      (lines.filterMap (lineServer (byte ∘ f))).map (List.map f) := by
  rw [List.filterMap_map, List.map_filterMap]
  exact congrArg (List.filterMap · lines) (funext (lineServer_map byte f))

theorem filter_map_nonempty (env : Option (List Place)) :
    (env.map (List.map f)).filter (!·.isEmpty) = (env.filter (!·.isEmpty)).map (List.map f) := by
  cases env with
  | none => rfl
  | some value => cases value <;> rfl

/-- The daemon looks at the bytes only. -/
theorem configureNameservers_map (env resolvConf : Option (List Place)) :
    configureNameservers byte (env.map (List.map f)) (resolvConf.map (List.map f)) =
      (configureNameservers (byte ∘ f) env resolvConf).map (List.map f) := by
  rw [configureNameservers, configureNameservers, filter_map_nonempty]
  cases env.filter (!·.isEmpty) with
  | some value =>
      rw [Option.map_some]
      dsimp only
      rw [storeTokens_eq, storeTokens_eq, ← List.map_take, words_map, List.map_take,
        Function.comp_assoc]
  | none =>
      cases resolvConf with
      | none => rfl
      | some content =>
          simp only [Option.map_none, Option.map_some, Option.getD_some, readResolvConf_lines,
            splitOnP_map, List.flatMap_map, lineParts_map, filterMap_lineServer_map,
            List.map_take, List.map_flatMap, Function.comp_assoc]

theorem intendedNameservers_map (env resolvConf : Option (List Place)) :
    intendedNameservers byte (env.map (List.map f)) (resolvConf.map (List.map f)) =
      (intendedNameservers (byte ∘ f) env resolvConf).map (List.map f) := by
  rw [intendedNameservers, intendedNameservers, filter_map_nonempty]
  cases env.filter (!·.isEmpty) with
  | some value =>
      rw [Option.map_some]
      dsimp only
      rw [words_map, List.map_take, Function.comp_assoc]
  | none =>
      cases resolvConf with
      | none => rfl
      | some content =>
          simp only [Option.map_none, Option.map_some, Option.getD_some, splitOnP_map,
            filterMap_lineServer_map, List.map_take, Function.comp_assoc]

end Places

theorem map_fst_located (text : Bytes) : (located text).map Prod.fst = text :=
  List.zipIdx_map_fst 0 text

theorem nodup_located (text : Bytes) : (located text).Nodup :=
  List.Nodup.of_map Prod.snd (by rw [located, List.zipIdx_map_snd]; exact List.nodup_range')

/-- Entries taken from the right places have the right values. -/
theorem exactlyStored_iff (env : Option CString) (resolvConf : Option Bytes) :
    ExactlyStored env resolvConf ↔
      configureNameservers Prod.fst ((env.map CString.bytes).map located)
          (resolvConf.map located) =
        intendedNameservers Prod.fst ((env.map CString.bytes).map located)
          (resolvConf.map located) := by
  refine ⟨ExactlyStored.places, fun places => ⟨?_, places⟩⟩
  have unplaced (source : Option Bytes) :
      (source.map located).map (List.map Prod.fst) = source := by
    rw [Option.map_map]
    exact (congrArg (Option.map · source) (funext map_fst_located)).trans Option.map_id_apply
  have stored := configureNameservers_map id Prod.fst
    ((env.map CString.bytes).map located) (resolvConf.map located)
  have intended := intendedNameservers_map id Prod.fst
    ((env.map CString.bytes).map located) (resolvConf.map located)
  rw [unplaced, unplaced] at stored intended
  rw [stored, intended]
  exact congrArg _ places

theorem mem_take_located {text : Bytes} {count : Nat} {symbol : UInt8 × Nat}
    (member : symbol ∈ (located text).take count) : symbol.2 < count := by
  obtain ⟨i, within, rfl⟩ := List.mem_take_iff_getElem.mp member
  simp only [located, List.getElem_zipIdx]
  omega

theorem mem_drop_located {text : Bytes} {count : Nat} {symbol : UInt8 × Nat}
    (member : symbol ∈ (located text).drop count) : ¬symbol.2 < count := by
  obtain ⟨i, within, rfl⟩ := List.mem_drop_iff_getElem.mp member
  simp only [located, List.getElem_zipIdx]
  omega

/-! ## Exactness -/

/-- The copy of the variable has its first words when these lie before the cut. -/
theorem value_exact_iff (value : Bytes) :
    storeTokens Prod.fst nameserverMax ((located value).take (nameserverBufSize - 1)) =
        (words (isListDelim ∘ Prod.fst) (located value)).take nameserverMax ↔
      ∀ word ∈ (words (isListDelim ∘ Prod.fst) (located value)).take nameserverMax,
        ∀ symbol ∈ word, symbol.2 < nameserverBufSize - 1 := by
  have kept : ∀ symbol ∈ (located value).take (nameserverBufSize - 1),
      symbol.2 < nameserverBufSize - 1 := fun _ => mem_take_located
  have cutOff : ∀ symbol ∈ (located value).drop (nameserverBufSize - 1),
      ¬symbol.2 < nameserverBufSize - 1 := fun _ => mem_drop_located
  have front : List.take nameserverMax (words (isListDelim ∘ Prod.fst) _) = _ ↔ _ :=
    take_words_append kept cutOff nameserverMax
  rwa [List.take_append_drop, ← storeTokens_eq] at front

/-- The file gives the intended list when every line that counts is intact. -/
theorem lines_exact_iff (content : Bytes) :
    readResolvConf Prod.fst nameserverMax (located content) =
        (((located content).splitOnP (isLineFeed ∘ Prod.fst)).filterMap
          (lineServer Prod.fst)).take nameserverMax ↔
      ∀ before line after,
        (located content).splitOnP (isLineFeed ∘ Prod.fst) = before ++ line :: after →
          LineIntact Prod.fst
            (nameserverMax - (before.filterMap (lineServer Prod.fst)).length) line := by
  have distinct : ((located content).splitOnP (isLineFeed ∘ Prod.fst)).flatten.Nodup :=
    (flatten_splitOnP_sublist _).nodup (nodup_located content)
  rw [readResolvConf_lines, take_flatMap_eq_iff (results_apart distinct)]
  refine forall_congr' fun before => forall_congr' fun line => forall_congr' fun after =>
    forall_congr' fun split => lineIntact_iff ?_ _
  exact (List.nodup_flatten.mp distinct).1 line (by rw [split]; simp)

theorem filter_located (value : Option Bytes) :
    (value.map located).filter (!·.isEmpty) = (value.filter (!·.isEmpty)).map located := by
  cases value with
  | none => rfl
  | some text => cases text <;> rfl

/-- The list is the intended one exactly when the buffer cuts nothing that it takes. -/
theorem nameservers_exact_iff (env : Option CString) (resolvConf : Option Bytes) :
    ExactlyStored env resolvConf ↔ NothingCut env resolvConf := by
  rw [exactlyStored_iff, configureNameservers, intendedNameservers, filter_located]
  cases isSet : (env.map CString.bytes).filter (!·.isEmpty) with
  | some value =>
      obtain ⟨isValue, -⟩ := Option.filter_eq_some_iff.mp isSet
      refine (value_exact_iff value).trans ⟨fun within => ⟨?_, ?_⟩, fun intact => ?_⟩
      · rw [isValue]
        rintro _ ⟨⟩
        exact within
      · rw [isSet]
        exact nofun
      · exact intact.value value isValue
  | none =>
      -- An empty value has no words.
      have noWords : ∀ value ∈ env.map CString.bytes,
          ∀ word ∈ (words (isListDelim ∘ Prod.fst) (located value)).take nameserverMax,
            ∀ symbol ∈ word, symbol.2 < nameserverBufSize - 1 := by
        intro value isValue
        rw [Option.mem_def.mp isValue] at isSet
        have empty : value = [] := by simpa using isSet
        rw [empty]
        exact List.forall_mem_nil _
      cases resolvConf with
      | none => exact iff_of_true rfl ⟨noWords, nofun⟩
      | some content =>
          refine (lines_exact_iff content).trans ⟨fun each => ⟨noWords, ?_⟩, fun intact => ?_⟩
          · rintro - _ ⟨⟩
            exact each
          · exact intact.lines isSet content rfl

/-- A value whose only address starts near the end of the buffer. -/
def paddedValue : CString where
  bytes := List.replicate 508 32 ++ ascii "10.0.0.1"
  terminated := by decide +kernel

/-- The address is cut to its first three characters. -/
theorem not_exactlyStored_padded : ¬ExactlyStored (some paddedValue) none := by
  intro whole
  have stored : configureNameservers id (some paddedValue.bytes) none = [ascii "10."] := by
    decide +kernel
  have intended : intendedNameservers id (some paddedValue.bytes) none = [ascii "10.0.0.1"] := by
    decide +kernel
  have same := whole.values
  rw [Option.map_some, stored, intended] at same
  revert same
  decide

end Pjsocky
