import Mathlib.Data.List.Basic

/-!
# Delimited streams

A frame is a body between a start and a stop marker; the body has no marker. A stream is quiet when every frame that starts in it is closed before another one starts. The rules say what is at the front of a quiet stream that is followed by a frame, and what is seen of it when the stream has arrived in part.
-/

namespace Delimited

variable {α : Type*} (start stop : α)

def Plain (body : List α) : Prop := ∀ b ∈ body, b ≠ start ∧ b ≠ stop

inductive Quiet : List α → Prop
  | nil : Quiet []
  | noise {b : α} {rest : List α} (hb : b ≠ start) (hrest : Quiet rest) : Quiet (b :: rest)
  | closed {body rest : List α} (hbody : Plain start stop body) (hrest : Quiet rest) :
    Quiet (start :: (body ++ stop :: rest))

variable {start stop} {front noise body rest buf back : List α}

theorem Quiet.of_noise (h : ∀ b ∈ noise, b ≠ start) (hrest : Quiet start stop rest) :
    Quiet start stop (noise ++ rest) := by
  induction noise with
  | nil => exact hrest
  | cons b noise ih =>
    exact .noise (h b List.mem_cons_self) (ih fun other hother => h other (List.mem_cons_of_mem b hother))

theorem Quiet.first (hfront : Quiet start stop front) (hbody : Plain start stop body) (rest : List α) :
    ∃ noise body' rest', front ++ start :: (body ++ stop :: rest) = noise ++ start :: (body' ++ stop :: rest') ∧
      (∀ b ∈ noise, b ≠ start) ∧ Plain start stop body' ∧
      ((noise = front ∧ body' = body ∧ rest' = rest) ∨
        ∃ front', Quiet start stop front' ∧ front = noise ++ start :: (body' ++ stop :: front') ∧
          rest' = front' ++ start :: (body ++ stop :: rest)) := by
  induction hfront with
  | nil => exact ⟨[], body, rest, rfl, nofun, hbody, .inl ⟨rfl, rfl, rfl⟩⟩
  | @noise b front hb _ ih =>
    obtain ⟨noise, body', rest', heq, hnoise, hbody', hwhere⟩ := ih
    refine ⟨b :: noise, body', rest', congrArg (b :: ·) heq, ?_, hbody', ?_⟩
    · intro other hother
      rcases List.mem_cons.mp hother with rfl | hother
      · exact hb
      · exact hnoise other hother
    · rcases hwhere with ⟨hnoise, hsame⟩ | ⟨front', hfront', hsplit, hrest'⟩
      · exact .inl ⟨congrArg (b :: ·) hnoise, hsame⟩
      · exact .inr ⟨front', hfront', congrArg (b :: ·) hsplit, hrest'⟩
  | @closed body' front hbody' hfront' _ =>
    refine ⟨[], body', front ++ start :: (body ++ stop :: rest), ?_, nofun, hbody',
      .inr ⟨front, hfront', rfl, rfl⟩⟩
    simp only [List.cons_append, List.append_assoc, List.nil_append]

theorem arrived_cases (h : buf ++ back = noise ++ start :: (body ++ stop :: rest)) :
    (∃ noise', noise = buf ++ noise' ∧ back = noise' ++ start :: (body ++ stop :: rest)) ∨
      (∃ body₁ body₂, body = body₁ ++ body₂ ∧ buf = noise ++ start :: body₁ ∧ back = body₂ ++ stop :: rest) ∨
        ∃ rest₁, buf = noise ++ start :: (body ++ stop :: rest₁) ∧ rest = rest₁ ++ back := by
  rcases List.append_eq_append_iff.mp h with ⟨noise', hnoise, hback⟩ | ⟨buf', hbuf, hback⟩
  · exact .inl ⟨noise', hnoise, hback⟩
  rcases buf' with _ | ⟨b, buf'⟩
  · exact .inl ⟨[], by simpa using hbuf.symm, by simpa using hback.symm⟩
  obtain ⟨rfl, hinner⟩ := List.cons.inj hback
  rcases List.append_eq_append_iff.mp hinner with ⟨inside, hinside, hrest⟩ | ⟨body₂, hbody, hrest⟩
  · rcases inside with _ | ⟨b, inside⟩
    · refine .inr (.inl ⟨body, [], (List.append_nil body).symm, ?_, ?_⟩)
      · rw [hbuf, hinside, List.append_nil]
      · simpa using hrest.symm
    · obtain ⟨rfl, hbehind⟩ := List.cons.inj hrest
      exact .inr (.inr ⟨inside, by rw [hbuf, hinside], hbehind⟩)
  · exact .inr (.inl ⟨buf', body₂, hbody, hbuf, hrest⟩)

end Delimited
