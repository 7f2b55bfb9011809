import Flowline.Proofs.Label.Sound
import Flowline.Proofs.Label.Complete

set_option autoImplicit false

namespace Flowline.Label

open Grammar

variable (finish : Nat)

theorem leaves_last_name (tokens rest : List Placed) (param : Param) (made : String → Param)
    (fits : List Placed → Prop) (keep : ∀ rest : List Placed, rest.length < tokens.length → fits rest) :
    Leaves (takeName finish tokens >>= fun found =>
        pure (made found.1, ⟨found.2.1, keep found.2.1 found.2.2⟩) :
        Except Flaw (Param × { rest : List Placed // fits rest })) param rest ↔
      ∃ name place, tokens = (.name name, place) :: rest ∧ param = made name := by
  rw [leaves_map (takeName finish tokens) made keep param rest]
  constructor
  · rintro ⟨name, left, same⟩
    obtain ⟨place, spelt⟩ := (leaves_name finish tokens rest name).mp left
    exact ⟨name, place, spelt, same⟩
  · rintro ⟨name, place, spelt, same⟩
    exact ⟨name, (leaves_name finish tokens rest name).mpr ⟨place, spelt⟩, same⟩

theorem param_sound (tokens rest : List Placed) (found : Param) (left : Leaves (param finish tokens) found rest) :
    Reads Parameter tokens rest found := by
  unfold param at left
  obtain ⟨first, place, others, rfl, left⟩ := (leaves_named finish _ _ _ _).mp left
  apply reads_token (.name first) place
  by_cases value : first = "in"
  · simp only [if_pos value] at left
    obtain ⟨second, behind, others, rfl, left⟩ := (leaves_named finish _ _ _ _).mp left
    apply reads_token (.name second) behind
    by_cases result : second = "out"
    · simp only [if_pos result] at left
      obtain ⟨third, last, rfl, rfl⟩ := (leaves_last_name finish _ _ _ (⟨·, .valueResult⟩) _ _).mp left
      apply reads_token (.name third) last
      rw [value, result]
      exact reads_here (.apart third) rest
    · simp only [if_neg result] at left
      obtain ⟨rfl, rfl⟩ := (leaves_ok _ _ _ _ _).mp left
      rw [value]
      exact reads_here (.value result) rest
  · simp only [if_neg value] at left
    by_cases result : first = "out"
    · simp only [if_pos result] at left
      obtain ⟨second, last, rfl, rfl⟩ := (leaves_last_name finish _ _ _ (⟨·, .result⟩) _ _).mp left
      apply reads_token (.name second) last
      rw [result]
      exact reads_here (.result second) rest
    · simp only [if_neg result] at left
      by_cases both : first = "inout"
      · simp only [if_pos both] at left
        obtain ⟨second, last, rfl, rfl⟩ := (leaves_last_name finish _ _ _ (⟨·, .valueResult⟩) _ _).mp left
        apply reads_token (.name second) last
        rw [both]
        exact reads_here (.valueResult second) rest
      · simp only [if_neg both] at left
        obtain ⟨rfl, rfl⟩ := (leaves_ok _ _ _ _ _).mp left
        exact reads_here (.plain ⟨value, result, both⟩) rest

theorem spelt_name {used : List Placed} {name : String} (spelt : used.map Prod.fst = [.name name]) :
    ∃ place, used = [(.name name, place)] := by
  obtain ⟨⟨_, place⟩, rfl, rfl⟩ := List.map_eq_singleton_iff.mp spelt
  exact ⟨place, rfl⟩

theorem spelt_marked {used : List Placed} {mark name : String} (spelt : used.map Prod.fst = [.name mark, .name name]) :
    ∃ place next, used = [(.name mark, place), (.name name, next)] := by
  obtain ⟨before, next, behind, spelt_before, spelt_behind, rfl⟩ := spelt_between [.name mark] spelt
  obtain ⟨place, rfl⟩ := spelt_name spelt_before
  obtain rfl := List.map_eq_nil_iff.mp spelt_behind
  exact ⟨place, next, rfl⟩

theorem param_complete {tokens : List Token} {found : Param} (derived : Parameter tokens found)
    (used rest : List Placed) (spelt : used.map Prod.fst = tokens) :
    Leaves (param finish (used ++ rest)) found rest := by
  unfold param
  cases derived with
  | plain unmarked =>
      obtain ⟨place, rfl⟩ := spelt_name spelt
      refine (leaves_named finish _ _ _ _).mpr ⟨_, place, rest, rfl, ?_⟩
      simp only [if_neg unmarked.1, if_neg unmarked.2.1, if_neg unmarked.2.2]
      exact (leaves_ok _ _ _ _ _).mpr ⟨rfl, rfl⟩
  | value other =>
      obtain ⟨place, next, rfl⟩ := spelt_marked spelt
      refine (leaves_named finish _ _ _ _).mpr ⟨"in", place, _, rfl, ?_⟩
      refine (leaves_named finish _ _ _ _).mpr ⟨_, next, rest, rfl, ?_⟩
      simp only [if_neg other]
      exact (leaves_ok _ _ _ _ _).mpr ⟨rfl, rfl⟩
  | result name =>
      obtain ⟨place, next, rfl⟩ := spelt_marked spelt
      refine (leaves_named finish _ _ _ _).mpr ⟨"out", place, _, rfl, ?_⟩
      exact (leaves_last_name finish _ _ _ (⟨·, .result⟩) _ _).mpr ⟨name, next, rfl, rfl⟩
  | valueResult name =>
      obtain ⟨place, next, rfl⟩ := spelt_marked spelt
      refine (leaves_named finish _ _ _ _).mpr ⟨"inout", place, _, rfl, ?_⟩
      exact (leaves_last_name finish _ _ _ (⟨·, .valueResult⟩) _ _).mpr ⟨name, next, rfl, rfl⟩
  | apart name =>
      obtain ⟨⟨_, place⟩, behind, rfl, rfl, spelt_behind⟩ := List.map_eq_cons_iff.mp spelt
      obtain ⟨next, last, rfl⟩ := spelt_marked spelt_behind
      refine (leaves_named finish _ _ _ _).mpr ⟨"in", place, _, rfl, ?_⟩
      refine (leaves_named finish _ _ _ _).mpr ⟨"out", next, _, rfl, ?_⟩
      exact (leaves_last_name finish _ _ _ (⟨·, .valueResult⟩) _ _).mpr ⟨name, last, rfl, rfl⟩

theorem params_sound (tokens rest : List Placed) (found : List Param)
    (left : Leaves (params finish tokens) found rest) :
    ∃ place, Reads Parameters tokens ((.closeParen, place) :: rest) found := by
  obtain ⟨first, middle, before, after⟩ := (leaves_params finish tokens rest found).mp left
  have short : middle.length < tokens.length := leaves_fits before
  have derives := param_sound finish tokens middle first before
  obtain ⟨comma, others, more, rfl, inner, rfl⟩ | ⟨rfl, place, rfl⟩ := after
  · obtain ⟨place, listed⟩ := params_sound others rest more inner
    refine ⟨place, reads_then derives ?_⟩
    intro taken derived
    apply reads_token .comma comma
    exact reads_imp listed (fun _ => .more derived)
  · exact ⟨place, reads_imp derives (fun _ => .last)⟩
termination_by tokens.length
decreasing_by
  subst_vars
  simp only [List.length_cons] at short
  omega

theorem params_complete {tokens : List Token} {found : List Param} (derived : Parameters tokens found)
    (used rest : List Placed) (spelt : used.map Prod.fst = tokens) (stop : Nat) :
    Leaves (params finish (used ++ (.closeParen, stop) :: rest)) found rest := by
  induction derived generalizing used with
  | last inner =>
      have single := param_complete finish inner used ((.closeParen, stop) :: rest) spelt
      exact (leaves_params finish _ rest _).mpr ⟨_, _, single, Or.inr ⟨rfl, stop, rfl⟩⟩
  | more first others ih =>
      obtain ⟨before, comma, behind, spelt_before, spelt_behind, rfl⟩ := spelt_between _ spelt
      rw [List.append_assoc, List.cons_append]
      have single := param_complete finish first before ((.comma, comma) :: (behind ++ (.closeParen, stop) :: rest))
        spelt_before
      exact (leaves_params finish _ rest _).mpr
        ⟨_, _, single, Or.inl ⟨comma, _, _, rfl, ih behind spelt_behind, rfl⟩⟩

theorem parameters_begin {tokens : List Token} {found : List Param} (derived : Parameters tokens found) :
    ∃ name others, tokens = .name name :: others := by
  have single (tokens : List Token) (param : Param) (derived : Parameter tokens param) :
      ∃ name others, tokens = .name name :: others := by
    cases derived <;> exact ⟨_, _, rfl⟩
  cases derived with
  | last inner => exact single _ _ inner
  | more first others =>
      obtain ⟨name, behind, rfl⟩ := single _ _ first
      exact ⟨name, _, rfl⟩

theorem header_sound (tokens : List Placed) (header : Header) (done : wholeHeader finish tokens = .ok header) :
    Heading (tokens.map Prod.fst) header := by
  obtain ⟨⟨name, rest, short⟩, read, done⟩ := (both_ok _ _ header).mp done
  obtain ⟨place, rfl⟩ := (leaves_name finish tokens rest name).mp ⟨short, read⟩
  dsimp only at done
  split at done
  · obtain ⟨rfl, rfl⟩ := (all_ok finish _ header _).mp done
    exact .empty name
  · obtain ⟨⟨found, last, short⟩, listed, done⟩ := (both_ok _ _ header).mp done
    obtain ⟨rfl, rfl⟩ := (all_ok finish _ header _).mp done
    obtain ⟨stop, used, rfl, derived⟩ := params_sound finish _ [] found ⟨short, listed⟩
    rw [List.map_cons, List.map_cons, List.map_append]
    exact .params name derived
  · obtain ⟨rfl, rfl⟩ := (all_ok finish _ header _).mp done
    exact .bare name

theorem header_complete {tokens : List Token} {header : Header} (derived : Heading tokens header)
    (used : List Placed) (spelt : used.map Prod.fst = tokens) : wholeHeader finish used = .ok header := by
  cases derived with
  | bare name =>
      obtain ⟨place, rfl⟩ := spelt_name spelt
      rfl
  | empty name =>
      obtain ⟨before, start, within, stop, spelt_before, spelt_within, same⟩ :=
        spelt_within [.name name] [] spelt []
      obtain ⟨place, rfl⟩ := spelt_name spelt_before
      obtain rfl := List.map_eq_nil_iff.mp spelt_within
      rw [List.append_nil] at same
      rw [same]
      rfl
  | params name inner =>
      obtain ⟨before, start, within, stop, spelt_before, spelt_within, same⟩ :=
        spelt_within [.name name] _ spelt []
      obtain ⟨place, rfl⟩ := spelt_name spelt_before
      obtain ⟨short, listed⟩ := params_complete finish inner within [] spelt_within stop
      -- The token behind the parenthesis is a name, so that the list is not taken for an empty one.
      obtain ⟨first, others, rfl⟩ := parameters_begin inner
      obtain ⟨⟨_, next⟩, behind, rfl, rfl, _⟩ := List.map_eq_cons_iff.mp spelt_within
      rw [List.append_nil] at same
      rw [same]
      refine (both_ok _ _ _).mpr ⟨_, rfl, ?_⟩
      exact (both_ok _ _ _).mpr ⟨_, listed, rfl⟩

theorem whole_header (tokens : List Placed) (header : Header) :
    wholeHeader finish tokens = .ok header ↔ Heading (tokens.map Prod.fst) header := by
  constructor
  · exact header_sound finish tokens header
  · intro derived
    exact header_complete finish derived tokens rfl

end Flowline.Label
