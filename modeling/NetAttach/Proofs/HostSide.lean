-- SUMMARY: Interfaces that a plugin makes on the host leave no trace in the attachment that is recorded.
import NetAttach.Attachment.Basic
import Mathlib.Logic.Relation

/-!
# Interfaces on the host

A plugin may report interfaces on the host between those inside the pod, and addresses
of them. The addresses tell their interfaces by position, so that an interface more moves
all positions behind it. What is recorded is the same with and without them, as long as
some interface lies inside the pod.
-/

namespace NetAttach

/-! ## More items -/

/-- A list with more items of a kind in between. -/
inductive Sprinkled {α : Type} (Extra : α → Prop) : List α → List α → Prop where
  | nil : Sprinkled Extra [] []
  | kept (x : α) {xs ys : List α} (rest : Sprinkled Extra xs ys) :
    Sprinkled Extra (x :: xs) (x :: ys)
  | extra {y : α} {xs ys : List α} (more : Extra y) (rest : Sprinkled Extra xs ys) :
    Sprinkled Extra xs (y :: ys)

theorem Sprinkled.filter_eq {α : Type} {Extra : α → Prop} {xs ys : List α} {p : α → Bool}
    (h : Sprinkled Extra xs ys) (refused : ∀ y, Extra y → p y = false) :
    ys.filter p = xs.filter p := by
  induction h with
  | nil => rfl
  | kept x rest ih => rw [List.filter_cons, List.filter_cons, ih]
  | extra more rest ih => rw [List.filter_cons_of_neg (by simp [refused _ more]), ih]

/-- Where an item is found when some more stand in front of those from a position on. -/
def shifted (position count i : Nat) : Nat := if i < position then i else i + count

section

variable {position count i j : Nat}

theorem shifted_inj : shifted position count i = shifted position count j ↔ i = j := by
  unfold shifted
  split <;> split <;> omega

/-- No item is found among those that are put in. -/
theorem shifted_outside :
    shifted position count i < position ∨ position + count ≤ shifted position count i := by
  unfold shifted
  split <;> omega

variable {α : Type} (before more after : List α)

theorem getElem?_shifted (i : Nat) :
    (before ++ more ++ after)[shifted before.length more.length i]? = (before ++ after)[i]? := by
  unfold shifted
  split
  · next front =>
    rw [List.append_assoc, List.getElem?_append_left front, List.getElem?_append_left front]
  · next back =>
    rw [List.getElem?_append_right (by rw [List.length_append]; omega),
      List.getElem?_append_right (by omega), List.length_append]
    congr 1
    omega

variable {more} in
/-- What is looked for is found where it was moved to, if it is not among what is put in. -/
theorem findIdx?_insert {p : α → Bool} (none : ∀ x ∈ more, p x = false) :
    (before ++ more ++ after).findIdx? p
      = ((before ++ after).findIdx? p).map (shifted before.length more.length) := by
  have passed : more.findIdx? p = Option.none := List.findIdx?_eq_none_iff.2 none
  rw [List.findIdx?_append, List.findIdx?_append, List.findIdx?_append, passed]
  cases found : before.findIdx? p with
  | some i =>
    have front : i < before.length := (List.findIdx?_eq_some_iff_getElem.1 found).1
    simp [shifted, front]
  | none =>
    cases after.findIdx? p with
    | none => rfl
    | some i =>
      simp only [Option.map_none, Option.or_none, Option.none_or, Option.map_some,
        List.length_append, shifted]
      rw [if_neg (by omega)]
      congr 1
      omega

end

/-! ## Results with interfaces on the host -/

namespace Plugin

/-- The address of the same interface, told by the position that it has among more of them. -/
def Address.shift (position count : Nat) (a : Address) : Address :=
  { a with interface := a.interface.map (shifted position count) }

/-- A result with interfaces on the host put in at one place, and with addresses of them. -/
inductive Result.Hosting (r : Result) : Result → Prop where
  | insert {before hosts after : List Interface} {ips : List Address}
    (place : r.interfaces = before ++ after)
    (outside : ∀ i ∈ hosts, i.sandbox = "")
    (theirs : Sprinkled
      (fun a => ∃ i, a.interface = some i ∧ before.length ≤ i ∧ i < before.length + hosts.length)
      (r.ips.map (Address.shift before.length hosts.length)) ips) :
    Hosting r { r with interfaces := before ++ hosts ++ after, ips }

/-- Some interface lies inside the pod. -/
def Result.Inside (r : Result) : Prop := ∃ i ∈ r.interfaces, i.sandbox ≠ ""

theorem Result.Hosting.inside {r r' : Result} (h : Hosting r r') (inside : r.Inside) : r'.Inside := by
  obtain ⟨place, -, -⟩ := h
  obtain ⟨i, mem, sandbox⟩ := inside
  rw [place] at mem
  refine ⟨i, ?_, sandbox⟩
  obtain mem | mem := List.mem_append.1 mem <;> simp [mem]

end Plugin

namespace Attachment

open Plugin (Interface Address Result)

/-- The interface inside the pod stays the one that is recorded. -/
theorem mainInterface?_insert {before hosts after : List Interface}
    (inside : ∃ i ∈ before ++ after, i.sandbox ≠ "") (outside : ∀ i ∈ hosts, i.sandbox = "") :
    ∃ main, mainInterface? (before ++ after) = some main
      ∧ mainInterface? (before ++ hosts ++ after)
        = some (shifted before.length hosts.length main) := by
  have passed : ∀ i ∈ hosts, (i.sandbox != "") = false := fun i mem => by simp [outside i mem]
  have moved := findIdx?_insert before after passed
  cases found : (before ++ after).findIdx? fun i => i.sandbox != "" with
  | none =>
    obtain ⟨i, mem, sandbox⟩ := inside
    exact absurd (by simpa using List.findIdx?_eq_none_iff.1 found i mem) sandbox
  | some main =>
    rw [found] at moved
    exact ⟨main, by rw [mainInterface?, found], by rw [mainInterface?, moved]; rfl⟩

/-- The addresses of the recorded interface are the same, in the same order. -/
theorem addresses_insert {position count main : Nat} {own ips : List Address}
    (theirs : Sprinkled
      (fun a => ∃ i, a.interface = some i ∧ position ≤ i ∧ i < position + count)
      (own.map (Address.shift position count)) ips) :
    (ips.filter fun ip => ip.interface.isNone || ip.interface == some (shifted position count main)).map
        (fun ip => bareAddress ip.address)
      = (own.filter fun ip => ip.interface.isNone || ip.interface == some main).map
        fun ip => bareAddress ip.address := by
  have refused : ∀ a : Address, (∃ i, a.interface = some i ∧ position ≤ i ∧ i < position + count) →
      (a.interface.isNone || a.interface == some (shifted position count main)) = false := by
    rintro a ⟨i, at_i, low, high⟩
    have outside := @shifted_outside position count main
    have other : i ≠ shifted position count main := by omega
    simp [at_i, other]
  have same (ip : Address) : ((ip.shift position count).interface.isNone
        || (ip.shift position count).interface == some (shifted position count main))
      = (ip.interface.isNone || ip.interface == some main) := by
    cases at_i : ip.interface with
    | none => simp [Address.shift, at_i]
    | some i => simp [Address.shift, at_i, Bool.beq_eq_decide_eq, shifted_inj]
  rw [theirs.filter_eq refused, List.filter_map, List.map_map]
  congr 1
  exact List.filter_congr fun ip _ => same ip

theorem ofResult_hosting (s : Selection) {r r' : Result} (inside : r.Inside)
    (h : Result.Hosting r r') : ofResult s r' = ofResult s r := by
  obtain @⟨before, hosts, after, ips, place, outside, theirs⟩ := h
  unfold Result.Inside at inside
  rw [place] at inside
  obtain ⟨main, old, new⟩ := mainInterface?_insert inside outside
  unfold ofResult
  dsimp only
  rw [place, old, new, Option.bind_some, Option.bind_some, getElem?_shifted,
    addresses_insert theirs]

/-- Let some interface of a result lie inside the pod. Put interfaces on the host between the others,
any number of them at any places, move the positions by which the addresses tell their interfaces
along, those that no interface has included, and put addresses of the new interfaces between the
others. Then the same attachment is recorded, with the same network, interface, hardware address,
addresses in the same order and name servers. -/
theorem host_interfaces_leave_no_trace (s : Selection) {r r' : Result} (inside : r.Inside)
    (hosting : Relation.ReflTransGen Result.Hosting r r') : ofResult s r' = ofResult s r := by
  have both : r'.Inside ∧ ofResult s r' = ofResult s r := by
    induction hosting with
    | refl => exact ⟨inside, rfl⟩
    | tail _ step ih => exact ⟨step.inside ih.1, (ofResult_hosting s ih.1 step).trans ih.2⟩
  exact both.2

/-- The pair of an interface inside the pod lies on the host, in front of it, and has an address of its
own; an address whose interface is not told and one that no interface has are there too. -/
theorem pair_on_the_host_is_passed_over :
    let s : Selection := ⟨"macvlan1", "ns1", none, [], none, [], none⟩
    let inner : Interface := ⟨"net1", "02:03:04:05:06:07", "/proc/42/ns/net"⟩
    let r : Result := ⟨"1.0.0", [⟨"macvlan-host", "", ""⟩, inner],
      [⟨"10.1.1.11/24", none, some 1⟩, ⟨"fd00::5/64", none, none⟩, ⟨"10.9.9.9/24", none, some 7⟩],
      [], .empty⟩
    let r' : Result := ⟨"1.0.0", [⟨"macvlan-host", "", ""⟩, ⟨"veth0", "02:00:00:00:00:01", ""⟩, inner],
      [⟨"192.168.0.1/24", none, some 1⟩, ⟨"10.1.1.11/24", none, some 2⟩, ⟨"fd00::5/64", none, none⟩,
        ⟨"10.9.9.9/24", none, some 8⟩], [], .empty⟩
    r.Inside ∧ Relation.ReflTransGen Result.Hosting r r'
      ∧ ofResult s r' = ofResult s r
      ∧ (ofResult s r).interface = "net1" ∧ (ofResult s r).ips = ["10.1.1.11", "fd00::5"] := by
  intro s inner r r'
  have inside : r.Inside := ⟨inner, by simp [r], by decide⟩
  have hosting : Result.Hosting r r' := by
    refine @Result.Hosting.insert r [⟨"macvlan-host", "", ""⟩] [⟨"veth0", "02:00:00:00:00:01", ""⟩]
      [inner] _ rfl (by simp) ?_
    exact .extra ⟨1, rfl, Nat.le_refl _, Nat.lt_succ_self _⟩ (.kept _ (.kept _ (.kept _ .nil)))
  exact ⟨inside, .single hosting, host_interfaces_leave_no_trace s inside (.single hosting),
    by decide +kernel, by decide +kernel⟩

end Attachment

end NetAttach
