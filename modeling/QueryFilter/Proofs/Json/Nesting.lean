import QueryFilter.Json.Decode
import QueryFilter.Proofs.Json.Members
import QueryFilter.Scalar

/-!
# Nesting of values

How many arrays and objects stand around the innermost part of a value. A text is read with a limit on the
containers that are open at once, and a finished value still has the containers around it that were open before
it. So the nesting of a value that is read, with the number of open containers around it, stays within the limit.
This is all that is used of a decoder elsewhere, where it may be any other one with a limit.
-/

namespace QueryFilter
namespace Json

mutual

/-- The nesting of a value: zero for scalars and null, one more than that of the deepest element otherwise. -/
def nesting : Json → Nat
  | .array elements =>
      nestingEach elements + 1
  | .object members =>
      nestingMembers members + 1
  | _ =>
      0

/-- The nesting of the deepest of values in a row. -/
def nestingEach : List Json → Nat
  | [] =>
      0
  | first :: rest =>
      max first.nesting (nestingEach rest)

/-- The nesting of the deepest value of members. -/
def nestingMembers : List (String × Json) → Nat
  | [] =>
      0
  | (_, value) :: rest =>
      max value.nesting (nestingMembers rest)

end

/-- Elements nest by a level less than their array. -/
theorem nesting_array_le_iff
    {elements : List Json}
    {bound : Nat} :
    (array elements).nesting ≤ bound + 1 ↔ ∀ element ∈ elements, element.nesting ≤ bound := by
  rw [nesting, Nat.add_le_add_iff_right]
  induction elements with
  | nil => simp [nestingEach]
  | cons first rest inductionHypothesis =>
      rw [nestingEach, Nat.max_le, inductionHypothesis, List.forall_mem_cons]

/-- The values of members nest by a level less than their object. -/
theorem nesting_object_le_iff
    {members : Members}
    {bound : Nat} :
    (object members).nesting ≤ bound + 1 ↔ ∀ member ∈ members, member.2.nesting ≤ bound := by
  rw [nesting, Nat.add_le_add_iff_right]
  induction members with
  | nil => simp [nestingMembers]
  | cons member rest inductionHypothesis =>
      rw [nestingMembers, Nat.max_le, inductionHypothesis, List.forall_mem_cons]

theorem nesting_lt_of_mem_array
    {elements : List Json}
    {element : Json}
    (listed : element ∈ elements) :
    element.nesting < (array elements).nesting := by
  rw [nesting]
  exact Nat.lt_succ_of_le (nesting_array_le_iff.1 (Nat.le_of_eq (by rw [nesting])) element listed)

theorem nesting_lt_of_mem_object
    {members : Members}
    {member : String × Json}
    (listed : member ∈ members) :
    member.2.nesting < (object members).nesting := by
  rw [nesting]
  exact Nat.lt_succ_of_le (nesting_object_le_iff.1 (Nat.le_of_eq (by rw [nesting])) member listed)

@[simp] theorem nesting_single (name : String) (value : Json) : (single name value).nesting = value.nesting + 1 := by
  simp [single, nesting, nestingMembers]

end Json

namespace Scalar

@[simp] theorem nesting_toJson (scalar : Scalar) : scalar.toJson.nesting = 0 := by
  cases scalar <;> simp [toJson, Json.nesting]

@[simp] theorem nestingEach_map_toJson (scalars : List Scalar) :
    Json.nestingEach (scalars.map toJson) = 0 := by
  induction scalars with
  | nil => rfl
  | cons first rest inductionHypothesis => simp [Json.nestingEach, inductionHypothesis]

end Scalar

namespace Json

/-! ## Reading within the limit -/

/-- The values that an open container holds by now. -/
def Frame.values : Frame → List Json
  | .array reversed =>
      reversed
  | .object members _ =>
      members.map Prod.snd

namespace Reading

/-- A container with these values, open or closed, is within the limit under the containers around it. -/
def HoldsWithin (limit : Nat) (values : List Json) (outer : List Frame) : Prop :=
  outer.length < limit ∧ ∀ value ∈ values, value.nesting + outer.length < limit

/-- Every open container is within the limit. -/
def OuterFits (limit : Nat) : List Frame → Prop
  | [] =>
      True
  | frame :: outer =>
      HoldsWithin limit frame.values outer ∧ OuterFits limit outer

/-- What is read so far is within the limit, and so are the containers that are still open. -/
def Fits (limit : Nat) : Reading → Prop
  | .anyValue outer =>
      OuterFits limit outer
  | .firstElement outer =>
      HoldsWithin limit [] outer ∧ OuterFits limit outer
  | .afterElement reversed outer =>
      HoldsWithin limit reversed outer ∧ OuterFits limit outer
  | .firstName outer =>
      HoldsWithin limit [] outer ∧ OuterFits limit outer
  | .laterName members outer =>
      HoldsWithin limit (members.map Prod.snd) outer ∧ OuterFits limit outer
  | .beforeColon members _ outer =>
      HoldsWithin limit (members.map Prod.snd) outer ∧ OuterFits limit outer
  | .afterMember members outer =>
      HoldsWithin limit (members.map Prod.snd) outer ∧ OuterFits limit outer
  | .complete result =>
      result.nesting ≤ limit

variable {limit : Nat} {outer : List Frame} {values : List Json} {members : Members}

theorem OuterFits.length_le (fits : OuterFits limit outer) : outer.length ≤ limit := by
  cases outer with
  | nil => exact Nat.zero_le limit
  | cons frame rest => exact fits.1.1

/-- A container is opened only while the limit is not reached. -/
theorem holdsWithin_nil (room : outer.length < limit) : HoldsWithin limit [] outer :=
  ⟨room, by simp⟩

/-- A container that is closed is a value within the limit. -/
theorem HoldsWithin.nesting_array_le (holds : HoldsWithin limit values outer) :
    (array values).nesting + outer.length ≤ limit := by
  obtain ⟨room, within⟩ := holds
  have closed : (array values).nesting ≤ limit - outer.length - 1 + 1 := by
    rw [nesting_array_le_iff]
    intro value listed
    have ofValue := within value listed
    omega
  omega

theorem HoldsWithin.nesting_object_le (holds : HoldsWithin limit (members.map Prod.snd) outer) :
    (object members).nesting + outer.length ≤ limit := by
  obtain ⟨room, within⟩ := holds
  have closed : (object members).nesting ≤ limit - outer.length - 1 + 1 := by
    rw [nesting_object_le_iff]
    intro member listed
    have ofValue := within member.2 (List.mem_map_of_mem listed)
    omega
  omega

/-- A finished value within the limit is held by the container that it is handed to. -/
theorem fits_deliver
    {result : Json}
    (within : result.nesting + outer.length ≤ limit)
    (fits : OuterFits limit outer) :
    (deliver result outer).Fits limit := by
  cases outer with
  | nil => exact within
  | cons frame rest =>
      obtain ⟨⟨room, held⟩, around⟩ := fits
      rw [List.length_cons] at within
      cases frame with
      | array reversed =>
          refine ⟨⟨room, ?_⟩, around⟩
          rw [List.forall_mem_cons]
          exact ⟨by omega, held⟩
      | object members name =>
          refine ⟨⟨room, ?_⟩, around⟩
          intro value listed
          obtain ⟨member, inserted, rfl⟩ := List.mem_map.1 listed
          rcases Members.eq_or_mem_of_mem_insert inserted with isResult | before
          · rw [isResult]
            omega
          · exact held member.2 (List.mem_map_of_mem before)

theorem fits_of_start?
    {token : JsonToken}
    {next : Reading}
    (started : start? limit outer token = some next)
    (fits : OuterFits limit outer) :
    next.Fits limit := by
  have room := fits.length_le
  cases token <;> simp only [start?] at started
  case null | bool | number | string =>
    obtain rfl := Option.some.inj started
    exact fits_deliver (by simpa [nesting] using room) fits
  case openArray | openObject =>
    split at started
    case isTrue room =>
      obtain rfl := Option.some.inj started
      exact ⟨holdsWithin_nil room, fits⟩
    case isFalse => cases started
  all_goals cases started

/-- A token that is expected keeps everything within the limit. -/
theorem fits_of_step?
    {reading next : Reading}
    {token : JsonToken}
    (stepped : step? limit reading token = some next)
    (fits : reading.Fits limit) :
    next.Fits limit := by
  cases reading with
  | anyValue outer => exact fits_of_start? stepped fits
  | firstElement outer =>
      by_cases closes : token = .closeArray
      · subst closes
        obtain rfl := Option.some.inj stepped
        exact fits_deliver fits.1.nesting_array_le fits.2
      · rw [step?] at stepped
        · exact fits_of_start? stepped fits
        · exact closes
  | afterElement reversed outer =>
      cases token with
      | comma =>
          obtain rfl := Option.some.inj stepped
          exact fits
      | closeArray =>
          obtain rfl := Option.some.inj stepped
          have turned : HoldsWithin limit reversed.reverse outer := by simpa [HoldsWithin] using fits.1
          exact fits_deliver turned.nesting_array_le fits.2
      | _ => cases stepped
  | firstName outer =>
      cases token with
      | string name =>
          obtain rfl := Option.some.inj stepped
          exact fits
      | closeObject =>
          obtain rfl := Option.some.inj stepped
          have noMembers : HoldsWithin limit (([] : Members).map Prod.snd) outer := fits.1
          exact fits_deliver noMembers.nesting_object_le fits.2
      | _ => cases stepped
  | laterName members outer =>
      cases token with
      | string name =>
          obtain rfl := Option.some.inj stepped
          exact fits
      | _ => cases stepped
  | beforeColon members name outer =>
      cases token with
      | colon =>
          obtain rfl := Option.some.inj stepped
          exact fits
      | _ => cases stepped
  | afterMember members outer =>
      cases token with
      | comma =>
          obtain rfl := Option.some.inj stepped
          exact fits
      | closeObject =>
          obtain rfl := Option.some.inj stepped
          exact fits_deliver fits.1.nesting_object_le fits.2
      | _ => cases stepped
  | complete result => cases stepped

/-- A run over tokens keeps everything within the limit. -/
theorem fits_of_foldlM
    {tokens : List JsonToken}
    {reading last : Reading}
    (ran : tokens.foldlM (step? limit) reading = some last)
    (fits : reading.Fits limit) :
    last.Fits limit := by
  induction tokens generalizing reading with
  | nil =>
      obtain rfl := Option.some.inj ran
      exact fits
  | cons token rest inductionHypothesis =>
      rw [List.foldlM_cons] at ran
      obtain ⟨next, stepped, ranOn⟩ := Option.bind_eq_some_iff.1 ran
      exact inductionHypothesis ranOn (fits_of_step? stepped fits)

end Reading

/-- A value that is read with a limit on open containers nests no deeper than the limit. -/
theorem nesting_le_of_ofTextWithin?
    {limit : Nat}
    {text : String}
    {value : Json}
    (read : ofTextWithin? limit text = some value) :
    value.nesting ≤ limit := by
  obtain ⟨tokens, -, ofTokens⟩ := Option.bind_eq_some_iff.1 read
  obtain ⟨last, ran, finished⟩ := Option.bind_eq_some_iff.1 ofTokens
  have fits := Reading.fits_of_foldlM ran trivial
  cases last with
  | complete result =>
      obtain rfl := Option.some.inj finished
      exact fits
  | _ => cases finished

/-- A decoder refuses the texts whose values would nest deeper than a limit. -/
def NestsWithin (limit : Nat) (decode : Decoder) : Prop :=
  ∀ text value, decode text = .ok value → value.nesting ≤ limit

/-- The machine is such a decoder. -/
theorem nestsWithin_decode : NestsWithin nestingLimit decode := by
  intro text value decoded
  rw [decode] at decoded
  cases read : ofText? text with
  | none =>
      rw [read] at decoded
      cases decoded
  | some result =>
      rw [read] at decoded
      obtain rfl := Except.ok.inj decoded
      exact nesting_le_of_ofTextWithin? read

end Json
end QueryFilter
