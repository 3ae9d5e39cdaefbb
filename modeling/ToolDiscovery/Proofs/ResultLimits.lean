import ToolDiscovery.Tool.Sample
import ToolDiscovery.Tool.Toolbox

/-!
# How long results are

What a tool produces is cut to the limit of its toolbox, and a cut result is longer than the limit
by the notice at most: `Toolbox.result_limited`. Complaints about a call that does not reach a tool
are given in full, however long they are: `Toolbox.complaints_not_limited`.
-/

namespace ToolDiscovery

namespace Truncation

theorem utf8ByteSize_cons (c : Char) (rest : List Char) :
    (String.ofList (c :: rest)).utf8ByteSize =
      c.utf8Size + (String.ofList rest).utf8ByteSize := by
  have hsplit : String.ofList (c :: rest) = String.singleton c ++ String.ofList rest := by
    rw [String.ofList_cons]
  rw [hsplit, String.utf8ByteSize_append]
  simp

/-- The part that is kept of a text fits. -/
theorem utf8ByteSize_fitting (bytes : Nat) (text : List Char) :
    (String.ofList (fitting bytes text)).utf8ByteSize ≤ bytes := by
  induction text generalizing bytes with
  | nil => simp [fitting]
  | cons c rest ih =>
      rw [fitting]
      by_cases hfits : c.utf8Size ≤ bytes
      · have hrest := ih (bytes - c.utf8Size)
        rw [if_pos hfits, utf8ByteSize_cons]
        omega
      · rw [if_neg hfits]
        simp

end Truncation

theorem truncate_of_le {text : String} {bytes : Nat} (h : text.utf8ByteSize ≤ bytes) :
    truncate text bytes = text := by
  rw [truncate, if_pos h]

/-- A shortened text is longer than allowed by no more than the notice. -/
theorem utf8ByteSize_truncate (text : String) (bytes : Nat) :
    (truncate text bytes).utf8ByteSize ≤
      bytes + (Truncation.notice text.utf8ByteSize).utf8ByteSize := by
  by_cases hfits : text.utf8ByteSize ≤ bytes
  · rw [truncate_of_le hfits]
    exact Nat.le_add_right_of_le hfits
  · rw [truncate, if_neg hfits, String.utf8ByteSize_append]
    exact Nat.add_le_add_right (Truncation.utf8ByteSize_fitting bytes text.toList) _

namespace Toolbox

variable {σ : Type}

/-- Whether a toolbox lets a call with the given arguments through to a tool. -/
def Accepts (box : Toolbox σ) (tool : Tool σ) (arguments : String) : Prop :=
  box.checksArguments → tool.definition.checkArguments arguments = .ok ()

variable {box : Toolbox σ} {tool : Tool σ} {name arguments : String} {fault : ArgumentFault}

/-- What an accepted call gives is what the tool produces, shortened. -/
theorem execute_of_accepts (hfind : box.find? name = some tool) (h : box.Accepts tool arguments)
    (state : σ) :
    (box.execute name arguments state).1 =
      truncate (tool.call arguments state).1 box.maxResultBytes := by
  rw [execute_of_some hfind]
  by_cases hchecks : box.checksArguments
  · rw [if_pos hchecks, h hchecks]
  · rw [if_neg hchecks]

/-- What a refused call gives is the complaint. -/
theorem execute_of_refused (hfind : box.find? name = some tool) (hchecks : box.checksArguments)
    (hfault : tool.definition.checkArguments arguments = .error fault) (state : σ) :
    box.execute name arguments state = (fault.message name, state) := by
  rw [execute_of_some hfind, if_pos hchecks, hfault]

/-- If a call reaches a tool, its result is longer than the limit by no more than the notice, and
what fits the limit is left as it is. If nobody has registered the name, or the arguments are
checked and found wrong, the result is the complaint whatever the limit is, and the tool does
nothing. -/
theorem result_limited (box : Toolbox σ) (name arguments : String) (state : σ) :
    (∀ tool, box.find? name = some tool → box.Accepts tool arguments →
      let produced := (tool.call arguments state).1
      let result := (box.execute name arguments state).1
      result.utf8ByteSize ≤
          box.maxResultBytes + (Truncation.notice produced.utf8ByteSize).utf8ByteSize ∧
        (produced.utf8ByteSize ≤ box.maxResultBytes → result = produced)) ∧
    (box.find? name = none → ∀ limit,
      { box with maxResultBytes := limit }.execute name arguments state =
        (unknownTool name, state)) ∧
    ∀ tool fault, box.find? name = some tool → box.checksArguments →
      tool.definition.checkArguments arguments = .error fault → ∀ limit,
        { box with maxResultBytes := limit }.execute name arguments state =
          (fault.message name, state) := by
  refine ⟨fun tool hfind haccepts => ?_, fun hnone limit => ?_,
    fun tool fault hfind hchecks hfault limit => ?_⟩
  · intro produced result
    have hresult : result = truncate produced box.maxResultBytes :=
      execute_of_accepts hfind haccepts state
    rw [hresult]
    exact ⟨utf8ByteSize_truncate produced box.maxResultBytes, truncate_of_le⟩
  · have hunknown : { box with maxResultBytes := limit }.find? name = none := hnone
    rw [execute_of_none hunknown]
    rfl
  · have hfound : { box with maxResultBytes := limit }.find? name = some tool := hfind
    exact execute_of_refused hfound hchecks hfault state

/-- A tool that tells the same story whatever its arguments are. -/
def story : Tool Unit where
  definition := { name := "story", description := "", parameters := .null }
  call _ := pure "Once upon a time there was a lamp that could not be found by anyone."

/-- A toolbox with a story that is too long for it. -/
def storyBox : Toolbox Unit where
  tools := [story]
  maxResultBytes := 16
  checksArguments := true

/-- The story is shortened. A name without a tool and arguments that are no JSON give complaints,
even where nothing at all is allowed. -/
theorem result_limited_story :
    (storyBox.execute "story" "1" ()).1.utf8ByteSize ≤ 16 + (Truncation.notice 68).utf8ByteSize ∧
      { storyBox with maxResultBytes := 0 }.execute "lamp" "1" () = (unknownTool "lamp", ()) ∧
      ∃ fault, story.definition.checkArguments "[" = .error fault ∧
        { storyBox with maxResultBytes := 0 }.execute "story" "[" () =
          (fault.message "story", ()) := by
  have hstory : storyBox.find? "story" = some story := by rfl
  have haccepts : storyBox.Accepts story "1" := fun _ => by rfl
  have hlamp : storyBox.find? "lamp" = none := by rfl
  obtain ⟨fault, hfault⟩ : ∃ fault, story.definition.checkArguments "[" = .error fault := ⟨_, rfl⟩
  have hlimited := ((result_limited storyBox "story" "1" ()).1 story hstory haccepts).1
  refine ⟨hlimited, (result_limited storyBox "lamp" "1" ()).2.1 hlamp 0, fault, hfault, ?_⟩
  exact (result_limited storyBox "story" "[" ()).2.2 story fault hstory rfl hfault 0

/-- A name that is not in the box. -/
def longName : String := "the story of the lamp that could not be found by anyone who lived"

/-- Complaints can be longer than the limit and a notice together: the one about a long name, and
the one about arguments that are no JSON. -/
theorem complaints_not_limited :
    let unknown := (storyBox.execute longName "1" ()).1
    let malformed := (storyBox.execute "story" "[" ()).1
    storyBox.maxResultBytes + (Truncation.notice unknown.utf8ByteSize).utf8ByteSize <
        unknown.utf8ByteSize ∧
      storyBox.maxResultBytes + (Truncation.notice malformed.utf8ByteSize).utf8ByteSize <
        malformed.utf8ByteSize := by
  decide +kernel

end Toolbox

end ToolDiscovery
