import Listing.Proofs.Table
import Listing.Request.Parameters

/-!
# Parameters read from text

Text without the signs that part parameters or encode characters is read as it stands
(`readPairs_encoded`).  Parameters that come in groups, all texts of a name in a row, are just these
groups (`entries_ofPairs_ungrouped`).  Under every name there are the texts that came with it, in
whatever order the names came (`lookup_ofPairs_reordered`).
-/

namespace Listing

namespace Text

theorem forall_bne {sep : Char} {cs : List Char} (h : sep ∉ cs) : ∀ c ∈ cs, (c != sep) = true := by
  intro c hc
  rw [bne_iff_ne]
  rintro rfl
  exact h hc

/-- A text is cut where the sign stands. -/
theorem cut_append {sep : Char} {before : List Char} (h : sep ∉ before) (rest : List Char) :
    cut sep (before ++ sep :: rest) = (before, some rest) := by
  have hne := forall_bne h
  have htake : (before ++ sep :: rest).takeWhile (· != sep) = before := by
    rw [List.takeWhile_append_of_pos hne]
    simp
  have hdrop : (before ++ sep :: rest).dropWhile (· != sep) = sep :: rest := by
    rw [List.dropWhile_append_of_pos hne]
    simp
  rw [cut, htake, hdrop]

/-- A text without the sign is not cut. -/
theorem cut_of_not_mem {sep : Char} {cs : List Char} (h : sep ∉ cs) : cut sep cs = (cs, none) := by
  have hne := forall_bne h
  have hdrop : cs.dropWhile (· != sep) = [] := by
    have hall : (cs ++ []).dropWhile (· != sep) = [].dropWhile (· != sep) :=
      List.dropWhile_append_of_pos hne
    simpa using hall
  rw [cut, hdrop]

/-- What stands before the sign in two texts, if the first is without it. -/
theorem fst_cut_append {sep : Char} {xs : List Char} (h : sep ∉ xs) (ys : List Char) :
    (cut sep (xs ++ ys)).1 = xs ++ (cut sep ys).1 := by
  -- the first sign of both is the first one of the second
  by_cases hys : sep ∈ ys
  · obtain ⟨before, rest, rfl, hbefore⟩ := List.eq_append_cons_of_mem hys
    have hboth : sep ∉ xs ++ before := by simp [h, hbefore]
    rw [cut_append hbefore, ← List.append_assoc, cut_append hboth]
  · have hboth : sep ∉ xs ++ ys := by simp [h, hys]
    rw [cut_of_not_mem hys, cut_of_not_mem hboth]

/-- Behind the sign nothing counts. -/
theorem fst_cut_append_of_mem {sep : Char} {xs : List Char} (h : sep ∈ xs) (ys : List Char) :
    (cut sep (xs ++ ys)).1 = (cut sep xs).1 := by
  obtain ⟨before, rest, rfl, hbefore⟩ := List.eq_append_cons_of_mem h
  rw [cut_append hbefore, List.append_assoc, List.cons_append, cut_append hbefore]

end Text

/-! ## Text that encodes itself -/

namespace Percent

theorem pieces_eq_map {cs : List Char} (hplus : '+' ∉ cs) (hpercent : '%' ∉ cs) :
    pieces cs = cs.map .plain := by
  induction cs with
  | nil => rfl
  | cons c cs ih =>
    rw [List.mem_cons, not_or] at hplus hpercent
    have hc : c ≠ '+' := fun h => hplus.1 h.symm
    -- the first two cases of reading pieces need a percent sign
    have hstep : pieces (c :: cs) = .plain (if c == '+' then ' ' else c) :: pieces cs := by
      rw [pieces]
      rintro a b rest rfl
      exact absurd rfl hpercent.1
    rw [hstep, ih hplus.2 hpercent.2]
    simp [hc]

theorem decodeFrom_plain (cs : List Char) : decodeFrom none (cs.map .plain) = cs := by
  induction cs with
  | nil => rfl
  | cons c cs ih => rw [List.map_cons, decodeFrom, ih]

/-- A text without plus and percent signs stands for itself. -/
theorem decode_eq_self {cs : List Char} (hplus : '+' ∉ cs) (hpercent : '%' ∉ cs) :
    decode cs = cs := by
  rw [decode, pieces_eq_map hplus hpercent, decodeFrom_plain]

end Percent

namespace Parameters

/-- A name and a text that are written into an address as they are: neither has a sign that parts
parameters or encodes a character, and the name has no equals sign. -/
structure Unencoded (pair : String × String) : Prop where
  name : ∀ c ∈ ['&', '+', '%', '='], c ∉ pair.1.toList
  text : ∀ c ∈ ['&', '+', '%'], c ∉ pair.2.toList

/-- The characters of a parameter. -/
def encoded (pair : String × String) : List Char := pair.1.toList ++ '=' :: pair.2.toList

theorem readPair_encoded {pair : String × String} (h : Unencoded pair) :
    readPair (encoded pair) = pair := by
  have hcut := Text.cut_append (h.name '=' (by simp)) pair.2.toList
  have hname := Percent.decode_eq_self (h.name '+' (by simp)) (h.name '%' (by simp))
  have htext := Percent.decode_eq_self (h.text '+' (by simp)) (h.text '%' (by simp))
  simp [readPair, encoded, hcut, hname, htext]

/-- Such a parameter is not parted. -/
theorem ampersand_not_mem_encoded {pair : String × String} (h : Unencoded pair) :
    '&' ∉ encoded pair := by
  have hname := h.name '&' (by simp)
  have htext := h.text '&' (by simp)
  simp [encoded, hname, htext]

/-- Parameters behind one another are read as they are written. -/
theorem readPairs_encoded {pair : String × String} {pairs : List (String × String)}
    (h : ∀ p ∈ pair :: pairs, Unencoded p) :
    readPairs (encoded pair ++ pairs.flatMap fun p => '&' :: encoded p) = pair :: pairs := by
  have hpieces : (encoded pair ++ pairs.flatMap fun p => '&' :: encoded p).splitOn '&' =
      (pair :: pairs).map encoded := by
    induction pairs generalizing pair with
    | nil =>
      have hsplit := List.splitOn_eq_singleton
        (ampersand_not_mem_encoded (h pair List.mem_cons_self))
      simp [hsplit]
    | cons next pairs ih =>
      have hnext : ∀ p ∈ next :: pairs, Unencoded p := fun p hp =>
        h p (List.mem_cons_of_mem pair hp)
      have hfirst := ampersand_not_mem_encoded (h pair List.mem_cons_self)
      rw [List.flatMap_cons, List.cons_append, List.splitOn_append_cons_self_of_not_mem hfirst,
        ih hnext, List.map_cons (a := pair)]
  have hnonempty : ((pair :: pairs).map encoded).filter (fun piece => !piece.isEmpty) =
      (pair :: pairs).map encoded := by
    rw [List.filter_eq_self]
    intro piece hp
    obtain ⟨p, -, rfl⟩ := List.mem_map.1 hp
    simp [encoded]
  -- the pieces are the parameters, and none of them is empty
  rw [readPairs, hpieces, hnonempty, List.map_map]
  apply (List.map_congr_left _).trans (List.map_id _)
  intro p hp
  exact readPair_encoded (h p hp)

/-- The parameters on both sides of an ampersand. -/
theorem readPairs_append (xs ys : List Char) :
    readPairs (xs ++ '&' :: ys) = readPairs xs ++ readPairs ys := by
  rw [readPairs, List.splitOn_append_cons_self, List.filter_append, List.map_append]
  rfl

/-- An ampersand in front of all parameters changes nothing. -/
theorem readPairs_cons (ys : List Char) : readPairs ('&' :: ys) = readPairs ys :=
  readPairs_append [] ys

/-! ## Parameters in groups -/

def ungrouped (groups : List (String × List String)) : List (String × String) :=
  groups.flatMap fun g => g.2.map fun text => (g.1, text)

/-- More texts of the last name go to its others. -/
theorem entries_foldl_add_last {name : String} {es : List (String × List String)}
    (h : name ∉ es.map Prod.fst) (texts before : List String) {ps : Parameters}
    (hps : ps.entries = es ++ [(name, before)]) :
    ((texts.map fun text => (name, text)).foldl add ps).entries =
      es ++ [(name, before ++ texts)] := by
  induction texts generalizing ps before with
  | nil => simpa using hps
  | cons text texts ih =>
    have hadd : (ps.add (name, text)).entries = es ++ [(name, before ++ [text])] := by
      show Table.alterEntries name _ ps.entries = _
      rw [hps, Table.alterEntries_last _ _ h]
      rfl
    rw [List.map_cons, List.foldl_cons, ih (before ++ [text]) hadd, List.append_assoc]
    rfl

/-- The texts of a new name are a new group at the end. -/
theorem entries_foldl_add {name : String} {texts : List String} (hne : texts ≠ [])
    {ps : Parameters} (h : name ∉ ps.entries.map Prod.fst) :
    ((texts.map fun text => (name, text)).foldl add ps).entries =
      ps.entries ++ [(name, texts)] := by
  cases texts with
  | nil => exact absurd rfl hne
  | cons text texts =>
    have hadd : (ps.add (name, text)).entries = ps.entries ++ [(name, [text])] :=
      Table.alterEntries_of_not_mem _ h
    rw [List.map_cons, List.foldl_cons, entries_foldl_add_last h texts [text] hadd]
    rfl

/-- Groups with texts whose names are new come behind what is there, one by one. -/
theorem entries_foldl_groups {groups : List (String × List String)} {ps : Parameters}
    (hne : ∀ g ∈ groups, g.2 ≠ []) (h : ((ps.entries ++ groups).map Prod.fst).Nodup) :
    ((ungrouped groups).foldl add ps).entries = ps.entries ++ groups := by
  -- the name of each group is new when its first text comes
  induction groups generalizing ps with
  | nil => simp [ungrouped]
  | cons g groups ih =>
    have hnew : g.1 ∉ ps.entries.map Prod.fst := by
      intro hmem
      rw [List.map_append, List.nodup_append] at h
      exact h.2.2 g.1 hmem g.1 (by simp) rfl
    have hadd := entries_foldl_add (hne g List.mem_cons_self) hnew
    have hrest : (((((g.2.map fun text => (g.1, text)).foldl add ps).entries ++ groups).map
        Prod.fst)).Nodup := by
      rw [hadd, List.append_assoc]
      exact h
    have hcons : ungrouped (g :: groups) =
        (g.2.map fun text => (g.1, text)) ++ ungrouped groups := List.flatMap_cons
    rw [hcons, List.foldl_append,
      ih (fun g' hg' => hne g' (List.mem_cons_of_mem g hg')) hrest, hadd, List.append_assoc]
    rfl

/-- Groups without texts leave nothing behind. -/
theorem ungrouped_filter (groups : List (String × List String)) :
    ungrouped (groups.filter fun g => !g.2.isEmpty) = ungrouped groups := by
  induction groups with
  | nil => rfl
  | cons g groups ih =>
    obtain ⟨name, texts⟩ := g
    cases texts with
    | nil => simpa [ungrouped] using ih
    | cons text texts =>
      simp only [ungrouped, List.filter_cons, List.isEmpty_cons, Bool.not_false, if_true,
        List.flatMap_cons] at ih ⊢
      rw [ih]

/-- Parameters that come in groups are the groups that have texts. -/
theorem entries_ofPairs_ungrouped {groups : List (String × List String)}
    (h : (groups.map Prod.fst).Nodup) :
    (ofPairs (ungrouped groups)).entries = groups.filter fun g => !g.2.isEmpty := by
  have hsub : ((groups.filter fun g => !g.2.isEmpty).map Prod.fst).Nodup :=
    h.sublist (List.filter_sublist.map _)
  have hne : ∀ g ∈ groups.filter (fun g => !g.2.isEmpty), g.2 ≠ [] := by
    intro g hg
    have hg2 := (List.mem_filter.1 hg).2
    simpa using hg2
  -- the empty groups are left out first, as the texts of the others are not empty
  rw [← ungrouped_filter]
  have hempty : ((Table.empty : Parameters).entries ++
      groups.filter fun g => !g.2.isEmpty).map Prod.fst =
      (groups.filter fun g => !g.2.isEmpty).map Prod.fst := rfl
  rw [← hempty] at hsub
  exact entries_foldl_groups hne hsub

/-- The texts of a name are those of its group. -/
theorem texts_ofPairs_ungrouped {groups : List (String × List String)}
    (h : (groups.map Prod.fst).Nodup) (name : String) :
    (ofPairs (ungrouped groups)).texts name = (groups.lookup name).getD [] := by
  rw [texts, Table.lookup, entries_ofPairs_ungrouped h]
  induction groups with
  | nil => rfl
  | cons g groups ih =>
    obtain ⟨m, ts⟩ := g
    rw [List.map_cons, List.nodup_cons] at h
    rw [List.filter_cons, List.lookup_cons]
    by_cases hm : name = m
    · subst hm
      cases ts with
      | nil =>
        -- the group is left out, and there is no other one of the name
        have hnone : (groups.filter fun g => !g.2.isEmpty).lookup name = none := by
          rw [List.lookup_eq_none_iff]
          intro g hg
          have hmem : g.1 ∈ groups.map Prod.fst := List.mem_map_of_mem (List.mem_filter.1 hg).1
          simp only [bne_iff_ne, ne_eq]
          rintro rfl
          exact h.1 hmem
        simp [hnone]
      | cons t ts => simp
    · have hne : (name == m) = false := by simpa using hm
      rw [hne]
      split
      · rw [List.lookup_cons, hne]
        exact ih h.2
      · exact ih h.2

/-! ## Parameters in any order -/

/-- Pairs in another order, in which those of one name stay in their order. -/
def Reordered (pairs pairs' : List (String × String)) : Prop :=
  ∀ name, pairs'.filter (fun p => p.1 == name) = pairs.filter fun p => p.1 == name

/-- Reordering neither drops a pair nor adds one. -/
theorem Reordered.perm {pairs pairs' : List (String × String)} (h : Reordered pairs pairs') :
    pairs'.Perm pairs := by
  rw [List.perm_iff_count]
  intro p
  -- a pair is counted among those of its name
  have hcount := congrArg (List.count p) (h p.1)
  rwa [List.count_filter (by simp), List.count_filter (by simp)] at hcount

/-- The texts of a name come from the pairs of this name. -/
theorem lookup_foldl_add {name : String} (pairs : List (String × String)) {ps ps' : Parameters}
    (h : ps.lookup name = ps'.lookup name) :
    (pairs.foldl add ps).lookup name =
      ((pairs.filter fun p => p.1 == name).foldl add ps').lookup name := by
  induction pairs generalizing ps ps' with
  | nil => exact h
  | cons pair pairs ih =>
    rw [List.foldl_cons, List.filter_cons]
    by_cases hname : pair.1 = name
    · rw [if_pos (by simpa using hname), List.foldl_cons]
      apply ih
      subst hname
      have hself : ∀ ps : Parameters,
          (ps.add pair).lookup pair.1 = some ((ps.lookup pair.1).getD [] ++ [pair.2]) :=
        fun ps => Table.lookup_alterEntries_self _ _ ps.entries
      rw [hself, hself, h]
    · rw [if_neg (by simpa using hname)]
      apply ih
      rw [← h]
      exact Table.lookup_alterEntries_of_ne (fun hn => hname hn.symm) _ ps.entries

/-- The texts of a name are those of its pairs. -/
theorem texts_ofPairs (pairs : List (String × String)) (name : String) :
    (ofPairs pairs).texts name = (pairs.filter fun p => p.1 == name).map Prod.snd := by
  suffices h : ∀ ps : Parameters, (pairs.foldl add ps).texts name =
      ps.texts name ++ (pairs.filter fun p => p.1 == name).map Prod.snd from h .empty
  induction pairs with
  | nil => simp
  | cons pair pairs ih =>
    intro ps
    rw [List.foldl_cons, ih, List.filter_cons]
    by_cases hname : pair.1 = name
    · have hself : (ps.add pair).texts name = ps.texts name ++ [pair.2] := by
        rw [texts, texts, ← hname, Table.lookup, add, Table.alter, Table.lookup_alterEntries_self]
        rfl
      rw [if_pos (by simpa using hname), hself]
      simp
    · have hother : (ps.add pair).texts name = ps.texts name :=
        congrArg (Option.getD · []) (Table.lookup_alterEntries_of_ne (Ne.symm hname) _ ps.entries)
      rw [if_neg (by simpa using hname), hother]

/-- The entries of some names come from the pairs of these names. -/
theorem entries_ofPairs_filter (keeps : String → Bool) (pairs : List (String × String)) :
    (ofPairs pairs).entries.filter (fun e => keeps e.1) =
      (ofPairs (pairs.filter fun p => keeps p.1)).entries := by
  -- adding pairs and leaving out names can be done in either order, from any start
  suffices h : ∀ ps ps' : Parameters, ps.entries.filter (fun e => keeps e.1) = ps'.entries →
      (pairs.foldl add ps).entries.filter (fun e => keeps e.1) =
        ((pairs.filter fun p => keeps p.1).foldl add ps').entries from h .empty .empty rfl
  induction pairs with
  | nil => exact fun ps ps' h => h
  | cons pair pairs ih =>
    intro ps ps' h
    rw [List.foldl_cons, List.filter_cons]
    cases hkeeps : keeps pair.1 with
    | false => exact ih _ _ ((Table.filter_alterEntries_of_not hkeeps _ ps.entries).trans h)
    | true =>
      apply ih
      show _ = Table.alterEntries pair.1 _ ps'.entries
      rw [← h]
      exact Table.filter_alterEntries_of_keeps hkeeps _ ps.entries

/-- The order in which names come does not show under any of them. -/
theorem lookup_ofPairs_reordered {pairs pairs' : List (String × String)}
    (h : Reordered pairs pairs') : (ofPairs pairs').lookup = (ofPairs pairs).lookup := by
  funext name
  rw [ofPairs, ofPairs, lookup_foldl_add pairs' rfl, h name, ← lookup_foldl_add pairs rfl]

end Parameters

end Listing
