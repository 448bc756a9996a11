import SavingsSite.Proofs.Composition.Criterion
import SavingsSite.Proofs.Routing.Meeting

set_option autoImplicit false

/-! What an overlap tells. A template that overlaps another fits the text of the other, which is no
request path when a parameter of it is a number; so the two need not share a path. They share one
exactly when they meet, and always when neither of them has a number. -/

namespace SavingsSite

open Routing

variable {α : Type}

def Routing.SharePath (first second : Template) : Prop :=
  ∃ path : String, first.fits path.toList = true ∧ second.fits path.toList = true

theorem Routing.sharePath_iff (first second : Template) :
    SharePath first second ↔ first.meets second = true := by
  rw [Template.meets_iff]
  constructor
  · rintro ⟨path, fitsFirst, fitsSecond⟩
    exact ⟨path.toList, fitsFirst, fitsSecond⟩
  · rintro ⟨path, fitsFirst, fitsSecond⟩
    refine ⟨String.ofList path, ?_, ?_⟩
    · rwa [String.toList_ofList]
    · rwa [String.toList_ofList]

namespace Composition

theorem overlap_of_checkKeys {names : List String} {named : String} {owned : List Owned}
    {keys : List (String × String)} {method path module : String} {other : Owned}
    {listed : List String}
    (failed : checkKeys names named owned keys = .error (.overlap method path module other listed)) :
    (method, path) ∈ keys ∧ other ∈ owned ∧ other.method = method ∧
      overlaps path other.path = .ok true := by
  induction keys with
  | nil => cases failed
  | cons key rest ih =>
      obtain ⟨keyMethod, keyPath⟩ := key
      rw [checkKeys] at failed
      have found := firstOverlap_found keyMethod keyPath owned
      generalize firstOverlap keyMethod keyPath owned = answer at failed found
      cases found with
      | clear =>
          obtain ⟨member, facts⟩ := ih failed
          exact ⟨List.mem_cons_of_mem _ member, facts⟩
      | undecided => cases failed
      | overlap held same overlap =>
          cases failed
          exact ⟨List.mem_cons_self, held, same, overlap⟩

theorem overlap_of_buildAll {settings : Settings} {names : List String} {owned : List Owned}
    {modules : List (FeatureModule α)} {method path module : String} {other : Owned}
    {listed : List String}
    (failed : buildAll settings names owned modules =
      .error (.overlap method path module other listed)) :
    Compared settings owned modules path other.path ∧ overlaps path other.path = .ok true := by
  induction modules generalizing owned with
  | nil => cases failed
  | cons m rest ih =>
      rw [buildAll] at failed
      cases found : m.build settings with
      | error inner =>
          rw [found] at failed
          cases failed
      | ok routes =>
          rw [found] at failed
          have keysAt : routeKeys m.base routes = m.keys settings := by
            rw [FeatureModule.keys, FeatureModule.routes_of_build found]
          simp only [keysAt] at failed
          cases checked : checkKeys names m.name owned (m.keys settings) with
          | error inner =>
              rw [checked] at failed
              cases failed
              obtain ⟨member, held, rfl, overlap⟩ := overlap_of_checkKeys checked
              exact ⟨.owned List.mem_cons_self ((m.mem_keys_iff settings _ path).mp member) held,
                overlap⟩
          | ok _ =>
              rw [checked] at failed
              change (buildAll settings names (owned ++ ownedKeys settings m) rest).map _ = _
                at failed
              cases later : buildAll settings names (owned ++ ownedKeys settings m) rest with
              | ok built =>
                  rw [later] at failed
                  cases failed
              | error inner =>
                  rw [later] at failed
                  cases failed
                  obtain ⟨compared, overlap⟩ := ih later
                  exact ⟨compared.cons, overlap⟩

theorem overlap_of_compose {mounted : List (Entry α)} {modules : List (FeatureModule α)}
    {settings : Settings} {reserved : List (String × String)} {method path module : String}
    {other : Owned} {listed : List String}
    (failed : (compose mounted modules settings reserved).answer =
      .error (.overlap method path module other listed)) :
    Compared settings (reservedKeys reserved) modules path other.path ∧
      overlaps path other.path = .ok true := by
  rw [compose] at failed
  simp only at failed
  split at failed
  · cases failed
  · split at failed
    · rename_i built
      cases failed
      exact overlap_of_buildAll built
    · split at failed
      · cases failed
      · cases failed

/-! ### What two overlapping templates share -/

theorem sharePath_of_loosened {a b : Template} {first second : String}
    (aPlain : a.loosened = a) (bPlain : b.loosened = b)
    (fitted : (a.fits second.toList = true ∧ b.loosened.fits second.toList = true) ∨
      (a.loosened.fits first.toList = true ∧ b.fits first.toList = true)) : SharePath a b := by
  rw [aPlain, bPlain] at fitted
  rcases fitted with both | both
  · exact ⟨second, both⟩
  · exact ⟨first, both⟩

/-- Two rooted templates that overlap need not share a request path: they share one exactly when
they meet, which they do when neither has a number, and with numbers taken for texts the text of one
of them fits both. Composition reports no overlap but of two such templates. -/
theorem overlap_shared_iff_meets :
    (∀ first second : String, startsWithSlash first = true → startsWithSlash second = true →
      overlaps first second = .ok true →
      ∃ a b, Template.ofPath first = .ok a ∧ Template.ofPath second = .ok b ∧
        (SharePath a b ↔ a.meets b = true) ∧
        ((a.fits second.toList = true ∧ b.loosened.fits second.toList = true) ∨
          (a.loosened.fits first.toList = true ∧ b.fits first.toList = true)) ∧
        (a.loosened = a → b.loosened = b → SharePath a b)) ∧
    ∀ (mounted : List (Entry α)) (modules : List (FeatureModule α)) (settings : Settings)
      (reserved : List (String × String)) (method path module : String) (other : Owned)
      (names : List String), (compose mounted modules settings reserved).answer =
        .error (.overlap method path module other names) →
      Compared settings (reservedKeys reserved) modules path other.path ∧
        overlaps path other.path = .ok true := by
  refine ⟨fun first second firstRooted secondRooted overlap => ?_, ?_⟩
  · unfold overlaps at overlap
    cases firstMade : Template.ofPath first with
    | error fault =>
        rw [firstMade] at overlap
        cases overlap
    | ok a =>
        cases secondMade : Template.ofPath second with
        | error fault =>
            rw [firstMade, secondMade] at overlap
            cases overlap
        | ok b =>
            rw [firstMade, secondMade] at overlap
            have either : (a.fits second.toList || b.fits first.toList) = true :=
              Except.ok.inj overlap
            have firstText := Template.loosened_fits_text (of_decide_eq_true firstRooted) firstMade
            have secondText :=
              Template.loosened_fits_text (of_decide_eq_true secondRooted) secondMade
            have fitted := (Bool.or_eq_true_iff.mp either).imp (fun fits => And.intro fits secondText)
              fun fits => And.intro firstText fits
            exact ⟨a, b, rfl, rfl, sharePath_iff a b, fitted,
              fun aPlain bPlain => sharePath_of_loosened aPlain bPlain fitted⟩
  · intro mounted modules settings reserved method path module other names failed
    exact overlap_of_compose failed

theorem overlap_shared_iff_meets_users :
    overlaps "/users/\x7bid:int\x7d" "/users/\x7bname\x7d" = .ok true ∧
      ∃ a b, Template.ofPath "/users/\x7bid:int\x7d" = .ok a ∧
        Template.ofPath "/users/\x7bname\x7d" = .ok b ∧ SharePath a b := by
  have overlap : overlaps "/users/\x7bid:int\x7d" "/users/\x7bname\x7d" = .ok true := rfl
  obtain ⟨a, b, aMade, bMade, shared, _⟩ :=
    (@overlap_shared_iff_meets String).1 _ _ rfl rfl overlap
  refine ⟨overlap, a, b, aMade, bMade, shared.mpr ?_⟩
  rw [← Except.ok.inj aMade, ← Except.ok.inj bMade]
  decide +kernel

def tagged : Template :=
  [.char '/', .parameter "name" .segment, .char ':', .parameter "tag" .segment]

def numbered : Template := [.char '/', .parameter "id" .whole]

def taggedAndNumbered : List (FeatureModule String) :=
  [oneRouteModule "tagged" "" "/\x7bname\x7d:\x7btag\x7d",
    oneRouteModule "numbered" "" "/\x7bid:int\x7d"]

/-- The colon in front of the kind of a parameter is no part of a request: two modules that share no
path are refused. -/
theorem colon_overlaps_unshared :
    overlaps "/\x7bname\x7d:\x7btag\x7d" "/\x7bid:int\x7d" = .ok true ∧
      (compose [] taggedAndNumbered localSettings []).answer =
        .error (.overlap "GET" "/\x7bid:int\x7d" "numbered"
          ⟨"GET", "/\x7bname\x7d:\x7btag\x7d", "tagged"⟩ ["tagged", "numbered"]) ∧
      Template.ofPath "/\x7bname\x7d:\x7btag\x7d" = .ok tagged ∧
      Template.ofPath "/\x7bid:int\x7d" = .ok numbered ∧ ¬ SharePath tagged numbered := by
  refine ⟨rfl, rfl, rfl, rfl, ?_⟩
  rw [sharePath_iff]
  decide +kernel

end Composition

end SavingsSite
