import Mathlib.Order.Bounds.Basic
import PspDisasm.Foundations.AddressSpans

namespace Foundations

/-- A wish for a block of addresses. -/
structure Request where
  size : Int
  alignment : Nat
  positive : 0 < size

def Request.at (request : Request) (start : Int) : Span := (start, start + request.size)

section FirstFit
variable (limit : Int)

/-- Where a request can be put, at or after the cursor: at a multiple of its
alignment, below the limit, and apart from the occupied ranges. -/
def freeStarts (occupied : List Span) (cursor : Int) (request : Request) : Set Int :=
  {start | cursor ≤ start ∧ (request.alignment : Int) ∣ start ∧ start + request.size ≤ limit ∧
    ∀ existing ∈ occupied, (request.at start).Apart existing}

/-- There is room for the requests, one after another from the cursor on. -/
def Seats (occupied : List Span) : Int → List Request → Prop
  | _, [] => True
  | cursor, request :: requests =>
    ∃ start ∈ freeStarts limit occupied cursor request, Seats occupied (start + request.size) requests

variable {limit} {occupied more : List Span} {cursor later start : Int} {request : Request} {requests : List Request}

theorem freeStarts_of_later (forward : cursor ≤ later) (free : start ∈ freeStarts limit occupied later request) :
    start ∈ freeStarts limit occupied cursor request := by
  obtain ⟨after, rest⟩ := free
  exact ⟨forward.trans after, rest⟩

/-- Ranges that end before the cursor are in nobody's way. -/
theorem freeStarts_behind (behind : ∀ existing ∈ more, existing.2 ≤ cursor) :
    freeStarts limit (occupied ++ more) cursor request = freeStarts limit occupied cursor request := by
  ext start
  constructor
  · rintro ⟨after, aligned, fits, clear⟩
    exact ⟨after, aligned, fits, fun existing member => clear existing (List.mem_append_left _ member)⟩
  · rintro ⟨after, aligned, fits, clear⟩
    refine ⟨after, aligned, fits, fun existing member => ?_⟩
    rcases List.mem_append.mp member with old | new
    · exact clear existing old
    · exact Or.inr ((behind existing new).trans after)

theorem seats_behind (behind : ∀ existing ∈ more, existing.2 ≤ cursor) :
    Seats limit (occupied ++ more) cursor requests ↔ Seats limit occupied cursor requests := by
  induction requests generalizing cursor with
  | nil => exact Iff.rfl
  | cons request requests ih =>
    have positive := request.positive
    unfold Seats
    rw [freeStarts_behind behind]
    refine exists_congr fun start => and_congr_right fun free => ih fun existing member => ?_
    have before := behind existing member
    have after := free.1
    omega

/-- The order in which the ranges were occupied does not matter. -/
theorem freeStarts_congr {others : List Span} (same : ∀ span, span ∈ occupied ↔ span ∈ others) :
    freeStarts limit occupied cursor request = freeStarts limit others cursor request := by
  simp only [freeStarts, same]

theorem seats_congr {others : List Span} (same : ∀ span, span ∈ occupied ↔ span ∈ others) :
    Seats limit occupied cursor requests ↔ Seats limit others cursor requests := by
  induction requests generalizing cursor with
  | nil => exact Iff.rfl
  | cons request requests ih =>
    unfold Seats
    rw [freeStarts_congr same]
    exact exists_congr fun start => and_congr_right fun _ => ih

theorem seats_of_later (forward : cursor ≤ later) (room : Seats limit occupied later requests) :
    Seats limit occupied cursor requests := by
  cases requests with
  | nil => trivial
  | cons request requests =>
    obtain ⟨start, free, rest⟩ := room
    exact ⟨start, freeStarts_of_later forward free, rest⟩

/-- First fit stays ahead: when there is room at all, there is room after the
first request has taken the least address that is free for it. -/
theorem seats_first (least : IsLeast (freeStarts limit occupied cursor request) start) :
    Seats limit occupied cursor (request :: requests) ↔
      Seats limit (occupied ++ [request.at start]) (start + request.size) requests := by
  have behind : ∀ existing ∈ [request.at start], existing.2 ≤ start + request.size := by
    intro existing member
    rw [List.mem_singleton.mp member]
    exact le_rfl
  rw [seats_behind behind]
  constructor
  · rintro ⟨other, free, rest⟩
    have ahead := least.2 free
    exact seats_of_later (by omega) rest
  · intro rest
    exact ⟨start, least.1, rest⟩

end FirstFit

end Foundations
