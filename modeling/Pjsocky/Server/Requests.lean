import Pjsocky.Server.Model

/-!
# What makes a line a request

`pj_json_parse` reads the first JSON value of a line and reports in `size` how many bytes it
left. `pjsocky_dispatch_line` looks at the value only, so whatever follows an object with a
string `id` is dropped without a word.
-/

namespace Pjsocky

open Support

/-- The bytes of a line that `pj_json_parse` left unread. -/
def unread (line : Bytes) (size : Nat) : Bytes := line.drop (line.length - size)

/-- Nothing but white space follows the first value of a line. -/
def Pjlib.Whole (lib : Pjlib) (line : Bytes) : Prop :=
  ∀ value size, lib.parse line = some (value, size) →
    ∀ byte ∈ unread line size, Json.isBlank byte = true

/-- The first value of a line is an object with a string `id`. -/
def Pjlib.Addressed (lib : Pjlib) (line : Bytes) : Prop :=
  ∃ members size id, lib.parse line = some (.obj members, size) ∧
    jsonFind (.obj members) "id" = some (.str id)

variable {lib : Pjlib} {handlers : Handlers} {line : Bytes}

/-- An addressed line is answered, whatever follows its first value. -/
theorem dispatchLine_addressed (addressed : lib.Addressed line) :
    ∃ response ran, dispatchLine lib handlers line = .answered response ran := by
  obtain ⟨members, size, id, parsed, hasId⟩ := addressed
  simp only [dispatchLine, parsed, hasId]
  split
  · split
    · split
      · exact ⟨_, _, rfl⟩
      · exact ⟨_, _, rfl⟩
    · exact ⟨_, _, rfl⟩
  · exact ⟨_, _, rfl⟩

/-- Any other line is rejected. -/
theorem dispatchLine_unaddressed (unaddressed : ¬lib.Addressed line) :
    dispatchLine lib handlers line = .rejected .einval := by
  unfold dispatchLine
  split
  · rename_i members size parsed
    dsimp only
    split
    · rename_i id hasId
      exact (unaddressed ⟨members, size, id, parsed, hasId⟩).elim
    · rfl
  · rfl

namespace Server

/-- A line is a request only if the whole line is one value: `pjsocky_dispatch_line` succeeds
for no other, and `handle_line` reports any other with the error event, without a command. -/
structure OneRequest (srv : Server) (line : Bytes) : Prop where
  accepts : ∀ handlers response ran,
    dispatchLine srv.lib handlers line = .answered response ran → srv.lib.Whole line
  reports : ¬srv.lib.Whole line → ∀ env world, srv.handleLine env line world =
    (.success, srv.pushErrorEvent .rejection (ascii "bad_request")
      (ascii "not a JSON object with a string \"id\"") env.reply
      (srv.callbacks env.before (world.record (.delivered world.conn.framing.sock line))))

/-- A line is handled that way exactly when nothing but white space follows its first value,
or that value is no object with a string `id`. -/
theorem one_request_iff (srv : Server) (line : Bytes) :
    srv.OneRequest line ↔ srv.lib.Whole line ∨ ¬srv.lib.Addressed line := by
  constructor
  · intro request
    by_cases addressed : srv.lib.Addressed line
    · obtain ⟨response, ran, answered⟩ :=
        @dispatchLine_addressed _ (fun _ _ => ⟨.success, [], trivial⟩) _ addressed
      exact .inl (request.accepts _ response ran answered)
    · exact .inr addressed
  · intro single
    refine ⟨fun handlers response ran answered => ?_, fun torn env world => ?_⟩
    · rcases single with whole | unaddressed
      · exact whole
      · rw [dispatchLine_unaddressed unaddressed] at answered
        cases answered
    · have unaddressed := single.resolve_left torn
      rw [handleLine, dispatchLine_unaddressed unaddressed]

/-- Two requests on one line. -/
def gluedLine : Bytes :=
  ascii "\x7b\"id\":\"1\",\"cmd\":\"ping\"\x7d" ++
    ascii "\x7b\"id\":\"2\",\"cmd\":\"call.hangup_all\"\x7d"

/-- What is parsed from it: the first request, with the 34 bytes of the second left over. -/
def parseGlued (line : Bytes) : Option (JsonElem × Nat) :=
  if line = gluedLine then
    some (.obj [addString "id" (ascii "1"), addString "cmd" (ascii "ping")], 34)
  else none

/-- The first request is executed and answered, and the second is lost. -/
theorem gluedLine_executed :
    (∃ response, dispatchLine (sampleServer parseGlued).lib (fun _ _ => ⟨.success, [], trivial⟩)
      gluedLine = .answered response (some .ping)) ∧
    unread gluedLine 34 = ascii "\x7b\"id\":\"2\",\"cmd\":\"call.hangup_all\"\x7d" ∧
    ¬(sampleServer parseGlued).OneRequest gluedLine := by
  refine ⟨⟨_, rfl⟩, by decide, fun request => ?_⟩
  have whole := request.accepts (fun _ _ => ⟨.success, [], trivial⟩) _ _ rfl
  have blank := whole _ 34 rfl 123 (by decide)
  exact absurd blank (by decide)

end Server
end Pjsocky
