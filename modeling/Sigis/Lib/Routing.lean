import Mathlib.Data.List.Forall2

namespace routing

/-- A segment of a path template: a fixed text, or a parameter for any one segment. -/
inductive Segment
  | literal (text : String)
  | parameter (name : String)
deriving DecidableEq

/-- The values of the parameters of a template. -/
abbrev Params := List (String × String)

/-- The values a template gives its parameters on a path, unless the path does not match. -/
def match_path : List Segment → List String → Option Params
  | [], [] => some []
  | .literal text :: template, segment :: path =>
    if segment = text then match_path template path else none
  | .parameter name :: template, segment :: path =>
    if segment = "" then none else (match_path template path).map ((name, segment) :: ·)
  | _, _ => none

structure Route (μ η : Type) where
  method : μ
  template : List Segment
  endpoint : η

variable {μ η : Type} [DecidableEq μ] {routes before after : List (Route μ η)} {route : Route μ η}
  {method : μ} {path : List String} {params : Params}

/-- The endpoint of a route, on a request it matches. -/
def Route.accepts (route : Route μ η) (method : μ) (path : List String) : Option (η × Params) :=
  if route.method = method then (match_path route.template path).map (route.endpoint, ·) else none

/-- A request goes to the first route that matches it. -/
def dispatch (routes : List (Route μ η)) (method : μ) (path : List String) : Option (η × Params) :=
  routes.findSome? fun route => route.accepts method path

theorem dispatch_append :
    dispatch (before ++ after) method path = (dispatch before method path).or (dispatch after method path) :=
  List.findSome?_append

/-- Only registered endpoints are reached. -/
theorem exists_route_of_dispatch {endpoint : η} (h : dispatch routes method path = some (endpoint, params)) :
    ∃ route ∈ routes, route.endpoint = endpoint := by
  obtain ⟨route, hroute, haccepts⟩ := List.exists_of_findSome?_eq_some h
  unfold Route.accepts at haccepts
  split at haccepts
  · obtain ⟨_, -, heq⟩ := Option.map_eq_some_iff.mp haccepts
    exact ⟨route, hroute, congrArg Prod.fst heq⟩
  · cases haccepts

/-- The texts a segment stands for. -/
def Segment.Allows (text : String) : Segment → Prop
  | .literal fixed => text = fixed
  | .parameter _ => text ≠ ""

/-- Each segment of the first template stands for every text its counterpart stands for. -/
def Covers (general special : List Segment) : Prop :=
  List.Forall₂ (fun g s => ∀ text, Segment.Allows text s → g.Allows text) general special

theorem isSome_match_path_iff {template : List Segment} :
    (match_path template path).isSome ↔ List.Forall₂ (fun segment text => segment.Allows text) template path := by
  induction template generalizing path with
  | nil => cases path <;> simp [match_path]
  | cons segment template ih =>
    cases path with
    | nil => cases segment <;> simp [match_path]
    | cons text path =>
      rw [List.forall₂_cons, ← ih]
      cases segment with
      | literal fixed =>
        by_cases h : text = fixed <;> simp [match_path, Segment.Allows, h]
      | parameter name =>
        by_cases h : text = "" <;> simp [match_path, Segment.Allows, h]

/-- A template matches every path that a template it covers matches. -/
theorem Covers.matches {general special : List Segment} (h : Covers general special)
    (hmatch : (match_path special path).isSome) : (match_path general path).isSome := by
  rw [isSome_match_path_iff] at hmatch ⊢
  induction h generalizing path with
  | nil => exact hmatch
  | cons hsegment _ ih =>
    cases hmatch with
    | cons htext hrest => exact .cons (hsegment _ htext) (ih hrest)

/-- A route that an earlier one covers receives no request: without it, every request goes
where it went. -/
theorem dispatch_of_covered
    (h : ∃ first ∈ before, first.method = route.method ∧ Covers first.template route.template) :
    dispatch (before ++ route :: after) method path = dispatch (before ++ after) method path := by
  rw [dispatch_append, dispatch_append]
  cases hbefore : dispatch before method path with
  | some found => rfl
  | none =>
    obtain ⟨first, hfirst, hmethod, hcovers⟩ := h
    have hnot : first.accepts method path = none := List.findSome?_eq_none_iff.mp hbefore first hfirst
    have hroute : route.accepts method path = none := by
      unfold Route.accepts at hnot ⊢
      split
      · next hsame =>
        rw [if_pos (hmethod.trans hsame), Option.map_eq_none_iff] at hnot
        rw [Option.map_eq_none_iff]
        by_contra hsome
        have hmatch := hcovers.matches (Option.isSome_iff_ne_none.mpr hsome)
        rw [hnot] at hmatch
        cases hmatch
      · rfl
    rw [Option.none_or, Option.none_or, dispatch, List.findSome?_cons, hroute]
    rfl

end routing
