import CdcSerial.Connection.Procedures
import CdcSerial.Proofs.Address
import CdcSerial.Proofs.Lists
import CdcSerial.Proofs.Usb.Path

/-!
# Listing and resolving

Listing visits the candidates one by one, and each visit leaves the ports found so far as they are
or adds one behind them. A port that is added counts the earlier ports of its product, while
resolving its address counts the earlier candidates. The two agree exactly where no earlier twin
of the device failed to open.
-/

namespace CdcSerial

open Procedure

namespace Locator

/-- What the visit of one candidate does to the ports found so far. -/
inductive Visit (locator : Locator) (context : Option Nat) (found : List PortInfo)
    (candidate : Candidate) : List Event → List PortInfo → Prop where
  | foreign (other : candidate.vendorId ≠ locator.vendorId) :
      Visit locator context found candidate [] found
  | notOpened {status} (own : candidate.vendorId = locator.vendorId) :
      Visit locator context found candidate
        [⟨.openDevice context candidate.device, .error status⟩] found
  | exhausted {handle} (own : candidate.vendorId = locator.vendorId)
      (exhausted : nextIndex? found candidate.productId = none) :
      Visit locator context found candidate
        [⟨.openDevice context candidate.device, .ok handle⟩, ⟨.closeHandle handle, ()⟩] found
  | listed {handle index strings port} (own : candidate.vendorId = locator.vendorId)
      (next : nextIndex? found candidate.productId = some index)
      (described : Path (describe candidate handle index) strings (.done port)) :
      Visit locator context found candidate
        (⟨.openDevice context candidate.device, .ok handle⟩ :: strings ++
          [⟨.closeHandle handle, ()⟩])
        (found ++ [port])

/-- Visits of candidates one after the other. -/
inductive Visits (locator : Locator) (context : Option Nat) :
    List PortInfo → List Candidate → List Event → List PortInfo → Prop where
  | none {found} : Visits locator context found [] [] found
  | next {found candidate events middle rest later ports}
      (visit : Visit locator context found candidate events middle)
      (visits : Visits locator context middle rest later ports) :
      Visits locator context found (candidate :: rest) (events ++ later) ports

theorem Visits.of_path {locator : Locator} {context : Option Nat} {candidates : List Candidate}
    {found ports : List PortInfo} {events : List Event}
    (path : Path (listFrom locator context found candidates) events (.done ports)) :
    Visits locator context found candidates events ports := by
  induction candidates generalizing found events with
  | nil =>
      rcases path.of_done with ⟨rfl, eq⟩
      cases eq
      exact .none
  | cons candidate rest ih =>
      rw [listFrom] at path
      by_cases own : candidate.vendorId = locator.vendorId
      · rw [if_neg (not_not.mpr own)] at path
        cases path with
        | call reply path =>
            cases reply with
            | error status =>
                cases path with
                | say path => exact .next (.notOpened own) (ih path)
            | ok handle =>
                simp only [Procedure.ask, Bind.bind, Procedure.bind] at path
                cases next : nextIndex? found candidate.productId with
                | none =>
                    rw [next] at path
                    cases path with
                    | say path =>
                        cases path with
                        | call reply path => exact .next (.exhausted own next) (ih path)
                | some index =>
                    rw [next] at path
                    rcases path.of_bind_done with ⟨strings, later, port, rfl, described, path⟩
                    cases path with
                    | @call _ _ events _ reply path =>
                        have visit : Visit locator context found candidate _ (found ++ [port]) :=
                          .listed own next described
                        simpa using Visits.next visit (ih path)
      · rw [if_pos own] at path
        exact .next (.foreign own) (ih path)

theorem Visits.path {locator : Locator} {context : Option Nat} {candidates : List Candidate}
    {found ports : List PortInfo} {events : List Event}
    (visits : Visits locator context found candidates events ports) :
    Path (listFrom locator context found candidates) events (.done ports) := by
  induction visits with
  | none => exact .here
  | next visit visits ih =>
      rw [listFrom]
      cases visit with
      | foreign other =>
          rw [if_pos other]
          exact ih
      | notOpened own =>
          rw [if_neg (not_not.mpr own)]
          exact .call _ (.say ih)
      | exhausted own exhausted =>
          rw [if_neg (not_not.mpr own)]
          refine .call _ ?_
          simp only [Procedure.bind]
          rw [exhausted]
          exact .say (.call _ ih)
      | listed own next described =>
          rw [if_neg (not_not.mpr own), List.cons_append, List.cons_append, List.append_assoc]
          refine .call _ ?_
          simp only [Procedure.bind]
          rw [next]
          exact (described.bind rfl).append (.call _ ih)

theorem describe_fields {candidate : Candidate} {handle : Handle} {index : UInt16}
    {strings : List Event} {port : PortInfo}
    (described : Path (describe candidate handle index) strings (.done port)) :
    port.address = ⟨candidate.vendorId, candidate.productId, index⟩ ∧
      port.comName = port.address.text ∧ port.productId = candidate.productId := by
  unfold describe at described
  rcases described.of_bind_done with ⟨_, _, _, -, -, described⟩
  rcases described.of_bind_done with ⟨_, _, _, -, -, described⟩
  rcases described.of_bind_done with ⟨_, _, _, -, -, described⟩
  rcases described.of_done with ⟨-, eq⟩
  cases eq
  exact ⟨rfl, rfl, rfl⟩

/-- Which devices open: the reply to every request to open one. -/
def Opens (opens : Nat → Bool) (events : List Event) : Prop :=
  ∀ context device reply, (⟨.openDevice context device, reply⟩ : Event) ∈ events →
    reply.isOk = opens device

/-- How many ports of a product were found. -/
def twinCount (found : List PortInfo) (productId : UInt16) : Nat :=
  found.countP (·.productId == productId)

theorem nextIndex?_eq_some {found : List PortInfo} {productId index : UInt16}
    (next : nextIndex? found productId = some index) :
    twinCount found productId < 65536 ∧ index.toNat = twinCount found productId := by
  simp only [nextIndex?, ← twinCount.eq_def] at next
  by_cases fits : twinCount found productId < 65536
  · simp only [fits, if_true, Option.some.injEq] at next
    exact ⟨fits, by rw [← next]; exact Nat.mod_eq_of_lt fits⟩
  · simp [fits] at next

theorem nextIndex?_eq_none {found : List PortInfo} {productId : UInt16}
    (exhausted : nextIndex? found productId = none) : ¬twinCount found productId < 65536 := by
  intro fits
  simp [nextIndex?, ← twinCount.eq_def, fits] at exhausted

/-- A visit adds a port for a candidate of the product that opens, unless there is no index left. -/
theorem Visit.twinCount {locator : Locator} {context : Option Nat} {candidate : Candidate}
    {found ports : List PortInfo} {events : List Event} {opens : Nat → Bool} {productId : UInt16}
    (visit : Visit locator context found candidate events ports) (opening : Opens opens events)
    (room : twinCount ports productId < 65536) :
    twinCount ports productId = twinCount found productId +
      (locator.vendorId == candidate.vendorId && productId == candidate.productId &&
        opens candidate.device).toNat := by
  cases visit with
  | foreign other => simp [Ne.symm other]
  | notOpened own =>
      have fails := opening context candidate.device _ (List.mem_singleton.mpr rfl)
      simp [← fails, Except.isOk, Except.toBool]
  | exhausted own exhausted =>
      by_cases same : productId = candidate.productId
      · subst same
        exact absurd room (nextIndex?_eq_none exhausted)
      · simp [same]
  | @listed handle index strings port own next described =>
      have succeeds := opening context candidate.device (.ok handle) (by simp)
      have product := (describe_fields described).2.2
      simp only [Locator.twinCount, List.countP_append, own, ← succeeds]
      by_cases same : productId = candidate.productId
      · simp [same, product, Except.isOk, Except.toBool]
      · simp [same, product, Ne.symm same]

theorem Visit.twinCount_le {locator : Locator} {context : Option Nat} {candidate : Candidate}
    {found ports : List PortInfo} {events : List Event}
    (visit : Visit locator context found candidate events ports) (productId : UInt16) :
    Locator.twinCount found productId ≤ Locator.twinCount ports productId := by
  cases visit with
  | listed => simp [Locator.twinCount]
  | _ => exact Nat.le_refl _

theorem Visits.twinCount_le {locator : Locator} {context : Option Nat}
    {candidates : List Candidate} {found ports : List PortInfo} {events : List Event}
    (visits : Visits locator context found candidates events ports) (productId : UInt16) :
    Locator.twinCount found productId ≤ Locator.twinCount ports productId := by
  induction visits with
  | none => exact Nat.le_refl _
  | next visit visits ih => exact Nat.le_trans (visit.twinCount_le productId) ih

/-- The ports of a product that were found are as many as its candidates that open. -/
theorem Visits.twinCount {locator : Locator} {context : Option Nat} {candidates : List Candidate}
    {found ports : List PortInfo} {events : List Event} {opens : Nat → Bool} {productId : UInt16}
    (visits : Visits locator context found candidates events ports) (opening : Opens opens events)
    (room : Locator.twinCount ports productId < 65536) :
    Locator.twinCount ports productId = Locator.twinCount found productId +
      candidates.countP fun candidate =>
        locator.vendorId == candidate.vendorId && productId == candidate.productId &&
          opens candidate.device := by
  induction visits with
  | none => simp
  | next visit visits ih =>
      have early : Opens opens _ := fun context device reply member =>
        opening context device reply (List.mem_append_left _ member)
      have late : Opens opens _ := fun context device reply member =>
        opening context device reply (List.mem_append_right _ member)
      have first := visit.twinCount early (Nat.lt_of_le_of_lt (visits.twinCount_le productId) room)
      rw [ih late room, first, List.countP_cons]
      generalize (_ && _ && _ : Bool) = counts
      cases counts with
      | false =>
          simp only [Bool.toNat_false, Bool.false_eq_true, if_false]
          omega
      | true =>
          simp only [Bool.toNat_true, if_true]
          omega

/-! ### Where a listed port comes from -/

/--
Listing, answered by `events`, got a port from a candidate: `early` are the candidates before it,
and its own visit added the port to those found among them.
-/
inductive Produces (locator : Locator) :
    List Event → Discovery → List Candidate → Candidate → PortInfo → Prop where
  | visit
      {enumeration before visited after forgotten discovery early candidate late found port ports}
      (enumerated : Path locator.source.enumerate enumeration (.done (.ok discovery)))
      (candidates : discovery.candidates = early ++ candidate :: late)
      (earlier : Path (listFrom locator discovery.context [] early) before (.done found))
      (here : Path (listFrom locator discovery.context found [candidate]) visited
        (.done (found ++ [port])))
      (later : Path (listFrom locator discovery.context (found ++ [port]) late) after (.done ports))
      (forgets : Path discovery.forget forgotten (.done ())) :
      Produces locator (enumeration ++ (before ++ (visited ++ after) ++ forgotten)) discovery early
        candidate port

theorem list_path {locator : Locator} {events : List Event} {ports : List PortInfo}
    (path : Path locator.list events (.done (.ok ports))) :
    ∃ enumeration visits forgotten discovery, events = enumeration ++ (visits ++ forgotten) ∧
      Path locator.source.enumerate enumeration (.done (.ok discovery)) ∧
      Path (listFrom locator discovery.context [] discovery.candidates) visits (.done ports) ∧
      Path discovery.forget forgotten (.done ()) := by
  rcases path.of_bind_done with ⟨enumeration, rest, outcome, rfl, enumerated, path⟩
  cases outcome with
  | error error => cases path.of_done.2
  | ok discovery =>
      rcases path.of_bind_done with ⟨visits, rest, found, rfl, visited, path⟩
      rcases path.of_bind_done with ⟨forgotten, rest, _, rfl, forgets, path⟩
      cases path with
      | say path =>
          rcases path.of_done with ⟨rfl, eq⟩
          cases eq
          exact ⟨enumeration, visits, forgotten, discovery, by simp, enumerated, visited, forgets⟩

theorem Visits.exists_visit {locator : Locator} {context : Option Nat}
    {candidates : List Candidate} {found ports : List PortInfo} {events : List Event}
    {port : PortInfo} (visits : Visits locator context found candidates events ports)
    (member : port ∈ ports) (new : port ∉ found) :
    ∃ early candidate late before visited after middle,
      candidates = early ++ candidate :: late ∧ events = before ++ (visited ++ after) ∧
        Visits locator context found early before middle ∧
        Visit locator context middle candidate visited (middle ++ [port]) ∧
        Visits locator context (middle ++ [port]) late after ports := by
  induction visits with
  | none => exact absurd member new
  | @next found candidate visited middle rest later ports visit visits ih =>
      by_cases here : port ∈ middle
      · cases visit with
        | listed own next described =>
            rcases List.mem_append.mp here with old | last
            · exact absurd old new
            · cases List.mem_singleton.mp last
              exact ⟨[], candidate, rest, [], _, later, found, rfl, rfl, .none,
                .listed own next described, visits⟩
        | _ => exact absurd here new
      · obtain ⟨early, source, late, before, visited, after, reached, rfl, rfl, first,
            second, third⟩ :=
          ih member here
        exact ⟨candidate :: early, source, late, _ ++ before, visited, after, reached, rfl,
          (List.append_assoc ..).symm, .next visit first, second, third⟩

theorem exists_produces {locator : Locator} {events : List Event} {ports : List PortInfo}
    {port : PortInfo} (path : Path locator.list events (.done (.ok ports)))
    (member : port ∈ ports) :
    ∃ discovery early candidate, Produces locator events discovery early candidate port := by
  rcases list_path path with
    ⟨enumeration, visits, forgotten, discovery, rfl, enumerated, listed, forgets⟩
  obtain ⟨early, candidate, late, before, visited, after, found, candidates, rfl, first,
      second, third⟩ :=
    (Visits.of_path listed).exists_visit member (by simp)
  have here := Visits.next second .none
  rw [List.append_nil] at here
  exact ⟨discovery, early, candidate,
    .visit enumerated candidates first.path here.path third.path forgets⟩

/-- The index of a listed port counts the earlier twins that opened. -/
theorem Produces.index {locator : Locator} {events : List Event} {discovery : Discovery}
    {early : List Candidate} {candidate : Candidate} {port : PortInfo} {opens : Nat → Bool}
    (produced : Produces locator events discovery early candidate port)
    (opening : Opens opens events) :
    port.comName = port.address.text ∧ port.address.vendorId = locator.vendorId ∧
      port.address.covers candidate.vendorId candidate.productId = true ∧
      port.address.index.toNat = early.countP fun twin =>
        port.address.covers twin.vendorId twin.productId && opens twin.device := by
  cases produced with
  | @visit enumeration before visited after forgotten _ _ _ late found _ ports enumerated candidates
      earlier here later forgets =>
      have early : Opens opens before := fun context device reply member =>
        opening context device reply (by simp [member])
      cases Visits.of_path here with
      | next visit rest =>
          cases rest
          generalize eq : found ++ [port] = result at visit
          cases visit with
          | @listed handle index strings added own next described =>
              cases List.append_cancel_left eq
              rcases describe_fields described with ⟨address, comName, product⟩
              rcases nextIndex?_eq_some next with ⟨room, counts⟩
              have listed := (Visits.of_path earlier).twinCount early room
              refine ⟨comName, by rw [address, own], by simp [address, Address.covers], ?_⟩
              rw [address, counts, listed]
              simp [Locator.twinCount, Address.covers, own]
          | _ => simp at eq

/-! ### What its address resolves to -/

theorem resolve_path {locator : Locator} {address : Address} {enumeration : List Event}
    {discovery : Discovery} {chosen : Candidate} (own : address.vendorId = locator.vendorId)
    (enumerated : Path locator.source.enumerate enumeration (.done (.ok discovery)))
    (picked : pick? address discovery.candidates = some chosen) :
    Path (locator.resolve address) enumeration (.done (.ok (discovery, chosen))) := by
  rw [resolve, if_neg (not_not.mpr own)]
  refine enumerated.bind ?_
  simp only [picked]
  rfl

theorem establish_path {locator : Locator} {settings : Settings} {address : Address}
    {config : LineConfig} {enumeration : List Event} {discovery : Discovery} {chosen : Candidate}
    (resolved : Path (locator.resolve address) enumeration (.done (.ok (discovery, chosen)))) :
    ∃ next, Path (Connection.establish locator settings address config) enumeration
      (.call (.openDevice discovery.context chosen.device) next) :=
  ⟨_, resolved.bind rfl⟩

/--
Resolving the address of a listed port always finds a candidate, and opening the port goes on to
open it. It is the one that the port was listed from exactly if no earlier twin failed to open.
-/
theorem listed_port_resolves_iff {locator : Locator} {events : List Event} {ports : List PortInfo}
    (listed : Path locator.list events (.done (.ok ports))) :
    (∀ port ∈ ports, ∃ discovery early candidate,
      Produces locator events discovery early candidate port) ∧
    ∀ {discovery again : Discovery} {early : List Candidate} {candidate : Candidate}
      {port : PortInfo} {opens : Nat → Bool} {enumeration : List Event},
      Produces locator events discovery early candidate port → Opens opens events →
      Path locator.source.enumerate enumeration (.done (.ok again)) →
      again.candidates = discovery.candidates →
      Address.parse port.comName = .ok port.address ∧
      ∃ passed chosen rest, again.candidates = passed ++ chosen :: rest ∧
        Path (locator.resolve port.address) enumeration (.done (.ok (again, chosen))) ∧
        (∀ settings config, ∃ next,
          Path (Connection.establish locator settings port.address config) enumeration
            (.call (.openDevice again.context chosen.device) next)) ∧
        (passed.countP fun twin => port.address.covers twin.vendorId twin.productId) =
          port.address.index.toNat ∧
        (passed = early ↔ ∀ twin ∈ early,
          port.address.covers twin.vendorId twin.productId = true → opens twin.device = true) := by
  refine ⟨fun port member => exists_produces listed member, ?_⟩
  intro discovery again early candidate port opens enumeration produced opening enumerated same
  rcases produced.index opening with ⟨comName, own, covered, index⟩
  have candidates : ∃ late, discovery.candidates = early ++ candidate :: late := by
    cases produced with
    | visit _ candidates => exact ⟨_, candidates⟩
  rcases candidates with ⟨late, candidates⟩
  refine ⟨by rw [comName, Address.parse_text], ?_⟩
  generalize twins : (fun twin : Candidate => port.address.covers twin.vendorId twin.productId) =
    isTwin
  have covers (twin : Candidate) : port.address.covers twin.vendorId twin.productId = isTwin twin :=
    congrFun twins twin
  simp only [covers] at covered index ⊢
  -- Fewer ports were listed than twins passed, so that the index still points to a twin.
  have enough : port.address.index.toNat < (again.candidates.filter isTwin).length := by
    have fewer : early.countP (fun twin => isTwin twin && opens twin.device) ≤
        early.countP isTwin :=
      List.countP_mono_left fun twin _ both => (Bool.and_eq_true_iff.mp both).1
    rw [← List.countP_eq_length_filter, same, candidates, List.countP_append,
      List.countP_cons, covered, if_pos rfl]
    omega
  obtain ⟨chosen, found⟩ : ∃ chosen,
      (again.candidates.filter isTwin)[port.address.index.toNat]? = some chosen :=
    ⟨_, List.getElem?_eq_getElem enough⟩
  rcases exists_split_of_filter found with ⟨passed, rest, split, chosenCovered, count⟩
  have resolved : Path (locator.resolve port.address) enumeration (.done (.ok (again, chosen))) :=
    resolve_path own enumerated (by rw [pick?, twins]; exact found)
  refine ⟨passed, chosen, rest, split, resolved, fun _ _ => establish_path resolved, count, ?_⟩
  constructor
  · rintro rfl twin member isCovered
    have all : (passed.filter isTwin).countP (fun twin => opens twin.device) =
        (passed.filter isTwin).length := by
      rw [List.countP_filter, ← List.countP_eq_length_filter, count, index]
      simp only [Bool.and_comm]
    exact List.countP_eq_length.mp all twin (List.mem_filter.mpr ⟨member, isCovered⟩)
  · intro opened
    have countEarly : early.countP isTwin = port.address.index.toNat := by
      rw [index]
      apply List.countP_congr
      intro twin member
      simp only [Bool.and_eq_true]
      exact ⟨fun isCovered => ⟨isCovered, opened twin member isCovered⟩, And.left⟩
    have both : passed ++ chosen :: rest = early ++ candidate :: late := by
      rw [← split, same, candidates]
    exact split_unique both chosenCovered covered (count.trans countEarly.symm)

/-- A locator on a bus that enumerates in one call. -/
def sample : Locator where
  source := .direct

/-- One of several devices of a product that have no strings. -/
def sampleTwin (device : Nat) : Candidate :=
    ⟨device, Profile.vendorId, 10927, 256, none, none, none⟩

/-- What finding two twins gives. -/
def sampleTwins : Discovery := ⟨none, [sampleTwin 0, sampleTwin 1]⟩

/-- The port of a twin that was listed with an index. -/
def samplePort (index : UInt16) : PortInfo where
  comName := Address.text ⟨Profile.vendorId, 10927, index⟩
  vendorId := Profile.vendorId
  productId := 10927
  bcdDevice := 256
  address := ⟨Profile.vendorId, 10927, index⟩

/-- Listing two twins of which both open. -/
def sampleListing : List Event :=
  [⟨.enumerate, .ok sampleTwins.candidates⟩, ⟨.openDevice none 0, .ok ⟨0⟩⟩, ⟨.closeHandle ⟨0⟩, ()⟩,
    ⟨.openDevice none 1, .ok ⟨1⟩⟩, ⟨.closeHandle ⟨1⟩, ()⟩]

/-- Listing two twins of which the first does not open. -/
def sampleListingOfOne : List Event :=
  [⟨.enumerate, .ok sampleTwins.candidates⟩, ⟨.openDevice none 0, .error .access⟩,
    ⟨.openDevice none 1, .ok ⟨1⟩⟩, ⟨.closeHandle ⟨1⟩, ()⟩]

/-- Where both twins open, the second has index one and is found by it. -/
theorem second_twin_resolves :
    Path sample.list sampleListing (.done (.ok [samplePort 0, samplePort 1])) ∧
      Produces sample sampleListing sampleTwins [sampleTwin 0] (sampleTwin 1) (samplePort 1) ∧
      Opens (fun _ => true) sampleListing ∧
      ∃ passed chosen rest, sampleTwins.candidates = passed ++ chosen :: rest ∧
        Path (sample.resolve (samplePort 1).address) [⟨.enumerate, .ok sampleTwins.candidates⟩]
          (.done (.ok (sampleTwins, chosen))) ∧
        passed = [sampleTwin 0] := by
  have listed : Path sample.list sampleListing (.done (.ok [samplePort 0, samplePort 1])) :=
    .call _ (.call _ (.call _ (.call _ (.call _ (.say .here)))))
  have produced : Produces sample sampleListing sampleTwins [sampleTwin 0] (sampleTwin 1)
      (samplePort 1) :=
    @Produces.visit sample [_] [_, _] [_, _] [] [] _ _ _ [] [samplePort 0] _ _ (.call _ .here) rfl
      (.call _ (.call _ .here)) (.call _ (.call _ .here)) .here .here
  have opening : Opens (fun _ => true) sampleListing := by
    intro context device reply member
    simp only [sampleListing, List.mem_cons, List.not_mem_nil, or_false] at member
    rcases member with eq | eq | eq | eq | eq <;> cases eq <;> rfl
  have again : Path sample.source.enumerate [⟨.enumerate, .ok sampleTwins.candidates⟩]
      (.done (.ok sampleTwins)) := .call _ .here
  obtain ⟨-, passed, chosen, rest, split, resolved, -, -, here⟩ :=
    (listed_port_resolves_iff listed).2 produced opening again rfl
  exact ⟨listed, produced, opening, passed, chosen, rest, split, resolved,
    here.mpr fun _ _ _ => rfl⟩

/--
Where the first twin does not open, the second is listed with the index by which the first is
found.
-/
theorem unopened_twin_is_resolved :
    Path sample.list sampleListingOfOne (.done (.ok [samplePort 0])) ∧
      Produces sample sampleListingOfOne sampleTwins [sampleTwin 0] (sampleTwin 1) (samplePort 0) ∧
      Path (sample.resolve (samplePort 0).address) [⟨.enumerate, .ok sampleTwins.candidates⟩]
        (.done (.ok (sampleTwins, sampleTwin 0))) ∧
      sampleTwin 0 ≠ sampleTwin 1 :=
  ⟨.call _ (.call _ (.say (.call _ (.call _ (.say .here))))),
    @Produces.visit sample [_] [_] [_, _] [] [] _ _ _ [] [] _ _ (.call _ .here) rfl
      (.call _ (.say .here)) (.call _ (.call _ .here)) .here .here,
    .call _ .here, by decide⟩

end Locator

end CdcSerial
