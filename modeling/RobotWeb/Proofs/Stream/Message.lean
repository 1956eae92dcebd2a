import RobotWeb.Proofs.Stream.Addressing

/-!
# Messages of the event log

The link of a message names its domain and its sequence number. To a router that holds one domain,
each link does one of three things: it names a message of the domain, it is one of the domain but
names no sequence number, or it is not one of the domain.

* `Fragment.BehindDomain`       — the text behind the URI of the domain in a link.
* `Fragment.NamesMessage`, `Fragment.NamesNoNumber` — links of the domain.
* `resourceUri_eq_elogDomain`   — which links are addressed to the domain.
* `delivery_of_message`, `delivery_of_no_number`, `delivery_of_foreign` — what comes of each.
* `Router.message_link_decides` — the three kinds of links.
-/

namespace RobotWeb

namespace Fragment

-- ---------------------------------------------------------------------------
-- Links of messages
-- ---------------------------------------------------------------------------

/-- In front of its first question mark the link has the URI of the domain, a slash and this
text. -/
def BehindDomain (domain : UInt32) (href : String) (text : List Char) : Prop :=
  withoutQuery href = ("/rw/elog/" ++ domain.toNat.repr ++ "/").toList ++ text

/-- The link names the message of the domain with this sequence number. -/
def NamesMessage (domain : UInt32) (href : String) (number : UInt32) : Prop :=
  ∃ text, BehindDomain domain href text ∧ Text.Writes text number.toNat

/-- The link is one of the domain, but nothing that stands behind it writes a sequence number. -/
def NamesNoNumber (domain : UInt32) (href : String) : Prop :=
  ∃ text, BehindDomain domain href text ∧ '/' ∉ text ∧
    ∀ number : UInt32, ¬ Text.Writes text number.toNat

/-- A text stands behind a domain if the link, up to its query, is the URI of the domain with that
text. -/
theorem behindDomain_iff {domain : UInt32} {href : String} {text : List Char} :
    BehindDomain domain href text ↔
      withoutQuery href = (Resource.elogDomain domain).uri.toList ++ '/' :: text := by
  unfold BehindDomain
  rw [Resource.uri_elogDomain, String.toList_append, List.append_assoc]
  rfl

/-- The URI of a domain has a slash in front of any question mark. -/
theorem slash_mem_withoutQuery (domain : UInt32) :
    '/' ∈ withoutQuery (Resource.elogDomain domain).uri := by
  have huri : (Resource.elogDomain domain).uri.toList =
      '/' :: ("rw/elog/".toList ++ domain.toNat.repr.toList) := by
    rw [Resource.uri_elogDomain, String.toList_append]
    rfl
  unfold withoutQuery
  rw [huri, List.takeWhile_cons_of_pos (by decide)]
  exact List.mem_cons_self

/-- A link without a slash behind the domain either names a message of it or no number. -/
theorem namesMessage_or_namesNoNumber {domain : UInt32} {href : String} {text : List Char}
    (h : BehindDomain domain href text) (hslash : '/' ∉ text) :
    (∃ number, NamesMessage domain href number) ∨ NamesNoNumber domain href := by
  by_cases hwrites : ∃ number : UInt32, Text.Writes text number.toNat
  · obtain ⟨number, hnumber⟩ := hwrites
    exact .inl ⟨number, text, h, hnumber⟩
  · exact .inr ⟨text, h, hslash, not_exists.mp hwrites⟩

-- ---------------------------------------------------------------------------
-- Where they are cut
-- ---------------------------------------------------------------------------

section

variable {f : Fragment} {domain : UInt32} {text : List Char}

/-- Such a link is cut there, as long as the text has no slash. -/
theorem elogParts?_of_behind (hclass : f.className = Resource.elogClass)
    (h : BehindDomain domain f.href text) (hslash : '/' ∉ text) :
    f.elogParts? = some ((Resource.elogDomain domain).uri, String.ofList text) := by
  unfold elogParts?
  rw [if_pos hclass, behindDomain_iff.mp h, Text.splitLast?_join hslash, Option.map_some]
  dsimp only
  rw [String.ofList_toList]

/-- A message is addressed to the domain if there is no slash behind the domain's URI but the one
that ends it. -/
theorem resourceUri_eq_elogDomain (hclass : f.className = Resource.elogClass) :
    f.resourceUri = (Resource.elogDomain domain).uri ↔
      ∃ text, BehindDomain domain f.href text ∧ '/' ∉ text := by
  constructor
  · intro huri
    unfold resourceUri elogParts? at huri
    rw [if_pos hclass] at huri
    cases hcut : Text.splitLast? '/' (withoutQuery f.href) with
    | none =>
      -- the link would be the URI itself, which has a slash
      rw [hcut] at huri
      have hhref : f.href = (Resource.elogDomain domain).uri := huri
      have hslash := slash_mem_withoutQuery domain
      rw [← hhref] at hslash
      exact absurd hslash (Text.splitLast?_eq_none.mp hcut)
    | some parts =>
      obtain ⟨before, text⟩ := parts
      rw [hcut] at huri
      have hbefore : String.ofList before = (Resource.elogDomain domain).uri := huri
      obtain ⟨hpath, hslash⟩ := Text.splitLast?_eq_some hcut
      refine ⟨text, behindDomain_iff.mpr ?_, hslash⟩
      rw [hpath, ← hbefore, String.toList_ofList]
  · rintro ⟨text, h, hslash⟩
    unfold resourceUri
    rw [elogParts?_of_behind hclass h hslash]

/-- A sequence number that is named is read. -/
theorem sequenceNumber_of_message {number : UInt32} (hclass : f.className = Resource.elogClass)
    (h : BehindDomain domain f.href text) (hwrites : Text.Writes text number.toNat) :
    f.sequenceNumber = .ok number := by
  have hslash : '/' ∉ text := hwrites.not_mem (by decide) (by decide)
  have hread : Text.unsigned? UInt32.size (String.ofList text) = some number.toNat := by
    rw [Text.unsigned?_eq_some, String.toList_ofList]
    exact ⟨hwrites, UInt32.toNat_lt_size number⟩
  unfold sequenceNumber
  rw [elogParts?_of_behind hclass h hslash]
  simp only [Option.map_some, Option.getD_some, hread, UInt32.ofNat_toNat]

/-- A text that writes no number of 32 bits is no sequence number. -/
theorem sequenceNumber_of_no_number (hclass : f.className = Resource.elogClass)
    (h : BehindDomain domain f.href text) (hslash : '/' ∉ text)
    (hnone : ∀ number : UInt32, ¬ Text.Writes text number.toNat) :
    f.sequenceNumber = .error (.inContext .missingSequenceNumber f.href) := by
  have hread : Text.unsigned? UInt32.size (String.ofList text) = none := by
    rw [Option.eq_none_iff_forall_ne_some]
    intro n hn
    rw [Text.unsigned?_eq_some, String.toList_ofList] at hn
    obtain ⟨hwrites, hlt⟩ := hn
    have hsame : (UInt32.ofNat n).toNat = n := UInt32.toNat_ofNat_of_lt' hlt
    exact hnone (UInt32.ofNat n) (hsame.symm ▸ hwrites)
  unfold sequenceNumber
  rw [elogParts?_of_behind hclass h hslash]
  simp only [Option.map_some, Option.getD_some, hread]

end

end Fragment

namespace Stream.Router

open Fragment (BehindDomain NamesMessage NamesNoNumber)

variable {f : Fragment} {domain : UInt32}

-- ---------------------------------------------------------------------------
-- What comes of them
-- ---------------------------------------------------------------------------

/-- What a router that holds the domain makes of a fragment that is addressed to it. -/
theorem delivery_elogDomain (hclass : f.className = Resource.elogClass)
    (huri : f.resourceUri = (Resource.elogDomain domain).uri) :
    (Router.mk [.elogDomain domain]).delivery f =
      match f.sequenceNumber with
      | .ok number => (.ok true, [(.elogDomain domain, .elog domain number (f.title?.getD ""))])
      | .error e => (.error e, []) := by
  -- the router has one resource, which is the one that is asked for
  have hresolve : (Router.mk [.elogDomain domain]).resolve? f.resourceUri =
      some (.elogDomain domain) :=
    resolve?_eq_some.mpr ⟨[], [], rfl, huri.symm, nofun⟩
  have hclass' : ¬ f.className ≠ (Resource.elogDomain domain).eventClass := not_not.mpr hclass
  have hdecode : (Resource.elogDomain domain).decode f =
      f.sequenceNumber >>= fun number => .ok (.elog domain number (f.title?.getD "")) := by
    unfold Resource.decode
    rw [if_neg hclass']
    rfl
  unfold delivery deliver decode
  rw [hresolve]
  dsimp only
  rw [hdecode]
  cases f.sequenceNumber <;> rfl

/-- A link that names a message is delivered to its domain with the number. -/
theorem delivery_of_message {number : UInt32} (hclass : f.className = Resource.elogClass)
    (h : NamesMessage domain f.href number) :
    (Router.mk [.elogDomain domain]).delivery f =
      (.ok true, [(.elogDomain domain, .elog domain number (f.title?.getD ""))]) := by
  obtain ⟨text, hbehind, hwrites⟩ := h
  have hslash : '/' ∉ text := hwrites.not_mem (by decide) (by decide)
  have huri := (Fragment.resourceUri_eq_elogDomain hclass).mpr ⟨text, hbehind, hslash⟩
  rw [delivery_elogDomain hclass huri, Fragment.sequenceNumber_of_message hclass hbehind hwrites]

/-- A link behind the domain that names no number is an error. -/
theorem delivery_of_no_number (hclass : f.className = Resource.elogClass)
    (h : NamesNoNumber domain f.href) :
    (Router.mk [.elogDomain domain]).delivery f =
      (.error (.inContext .missingSequenceNumber f.href), []) := by
  obtain ⟨text, hbehind, hslash, hnone⟩ := h
  have huri := (Fragment.resourceUri_eq_elogDomain hclass).mpr ⟨text, hbehind, hslash⟩
  rw [delivery_elogDomain hclass huri,
    Fragment.sequenceNumber_of_no_number hclass hbehind hslash hnone]

/-- A message that is not one of the domain is passed over. -/
theorem delivery_of_foreign (hclass : f.className = Resource.elogClass)
    (hmessage : ∀ number, ¬ NamesMessage domain f.href number)
    (hnone : ¬ NamesNoNumber domain f.href) :
    (Router.mk [.elogDomain domain]).delivery f = (.ok false, []) := by
  have hne : f.resourceUri ≠ (Resource.elogDomain domain).uri := by
    intro huri
    obtain ⟨text, hbehind, hslash⟩ := (Fragment.resourceUri_eq_elogDomain hclass).mp huri
    rcases Fragment.namesMessage_or_namesNoNumber hbehind hslash with ⟨number, hnumber⟩ | hno
    · exact hmessage number hnumber
    · exact hnone hno
  have hresolve : (Router.mk [.elogDomain domain]).resolve? f.resourceUri = none := by
    rw [resolve?_eq, List.find?_cons_of_neg (by simpa using hne.symm), List.find?_nil]
  unfold delivery deliver decode
  rw [hresolve]

/-- Each message is of one of the three kinds, and delivered accordingly. -/
theorem delivery_cases (hclass : f.className = Resource.elogClass) :
    (∃ number, NamesMessage domain f.href number ∧
      (Router.mk [.elogDomain domain]).delivery f =
        (.ok true, [(.elogDomain domain, .elog domain number (f.title?.getD ""))])) ∨
    (NamesNoNumber domain f.href ∧
      (Router.mk [.elogDomain domain]).delivery f =
        (.error (.inContext .missingSequenceNumber f.href), [])) ∨
    (((∀ number, ¬ NamesMessage domain f.href number) ∧ ¬ NamesNoNumber domain f.href) ∧
      (Router.mk [.elogDomain domain]).delivery f = (.ok false, [])) := by
  by_cases hmessage : ∃ number, NamesMessage domain f.href number
  · obtain ⟨number, hnumber⟩ := hmessage
    exact .inl ⟨number, hnumber, delivery_of_message hclass hnumber⟩
  · have hmessage := not_exists.mp hmessage
    by_cases hnone : NamesNoNumber domain f.href
    · exact .inr (.inl ⟨hnone, delivery_of_no_number hclass hnone⟩)
    · exact .inr (.inr ⟨⟨hmessage, hnone⟩, delivery_of_foreign hclass hmessage hnone⟩)

/-- **The link of a message decides what comes of it.** A router that holds one domain hands a
message over exactly if its link, up to the first question mark, is the URI of the domain, a slash
and a numeral of 32 bits, and then with this number and with the title of the list item. It fails
exactly if something else without a slash stands there, and the error shows the whole link. Any
other message is passed over. Every subscriber is handed the same. -/
theorem message_link_decides (hclass : f.className = Resource.elogClass) :
    let r : Router := ⟨[.elogDomain domain]⟩
    (∀ number, r.delivery f =
        (.ok true, [(.elogDomain domain, .elog domain number (f.title?.getD ""))]) ↔
      NamesMessage domain f.href number) ∧
    (∀ e, r.delivery f = (.error e, []) ↔
      e = .inContext .missingSequenceNumber f.href ∧ NamesNoNumber domain f.href) ∧
    (r.delivery f = (.ok false, []) ↔
      (∀ number, ¬ NamesMessage domain f.href number) ∧ ¬ NamesNoNumber domain f.href) ∧
    ∀ {η : Type} (handle : Handler η) (state : η),
      r.deliver handle state f = ((r.delivery f).1, handleAll handle state (r.delivery f).2) := by
  intro r
  refine ⟨?_, ?_, ?_, fun handle state => deliver_eq_delivery r handle state f⟩
  · intro number
    -- the three deliveries differ, so that what is delivered tells which of the cases it is
    refine ⟨fun h => ?_, delivery_of_message hclass⟩
    rcases delivery_cases hclass with ⟨other, hother, hd⟩ | ⟨-, hd⟩ | ⟨-, hd⟩
    · have hsame := hd.symm.trans h
      simp only [Prod.mk.injEq, List.cons.injEq, Event.elog.injEq, true_and, and_true] at hsame
      exact hsame ▸ hother
    · cases hd.symm.trans h
    · cases hd.symm.trans h
  · intro e
    constructor
    · intro h
      rcases delivery_cases hclass with ⟨other, -, hd⟩ | ⟨hnone, hd⟩ | ⟨-, hd⟩
      · cases hd.symm.trans h
      · cases hd.symm.trans h
        exact ⟨rfl, hnone⟩
      · cases hd.symm.trans h
    · rintro ⟨rfl, hnone⟩
      exact delivery_of_no_number hclass hnone
  · refine ⟨fun h => ?_, fun ⟨hmessage, hnone⟩ => delivery_of_foreign hclass hmessage hnone⟩
    rcases delivery_cases hclass with ⟨other, -, hd⟩ | ⟨-, hd⟩ | ⟨hforeign, -⟩
    · cases hd.symm.trans h
    · cases hd.symm.trans h
    · exact hforeign

/-- A signed number with leading zeros in front of a query, the first number that 32 bits do not
hold, and a link that ends in a slash. -/
theorem numbers_behind_domain :
    let r : Router := ⟨[.elogDomain 1]⟩
    let message (href : String) : Fragment :=
      ⟨⟨"li", [("title", "stop")], []⟩, Resource.elogClass, href⟩
    r.delivery (message "/rw/elog/1/+007?page=/2") =
        (.ok true, [(.elogDomain 1, .elog 1 7 "stop")]) ∧
      NamesNoNumber 1 "/rw/elog/1/4294967296" ∧
      ∀ number, ¬ NamesMessage 1 "/rw/elog/1/7/" number := by
  intro r message
  have hsigned : NamesMessage 1 "/rw/elog/1/+007?page=/2" 7 := by
    refine ⟨"+007".toList, ?_, "007".toList, .inr rfl, by decide, ?_, by decide⟩
    · show Fragment.withoutQuery _ = _
      decide +kernel
    · exact List.all_eq_true.mp (by decide)
  refine ⟨?_, ?_, ?_⟩
  · exact ((message_link_decides (f := message _) rfl).1 7).mpr hsigned
  · have hfails : r.delivery (message "/rw/elog/1/4294967296") =
        (.error (.inContext .missingSequenceNumber "/rw/elog/1/4294967296"), []) := by
      decide +kernel
    exact (((message_link_decides (f := message _) rfl).2.1 _).mp hfails).2
  · have hpassed : r.delivery (message "/rw/elog/1/7/") = (.ok false, []) := by
      decide +kernel
    exact ((message_link_decides (f := message _) rfl).2.2.1.mp hpassed).1

end Stream.Router

end RobotWeb
