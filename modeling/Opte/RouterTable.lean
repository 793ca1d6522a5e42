import Opte.Port

/-!
What the router's administration is for. The router keeps a routing table, the list of
router entries in force: `add_entry` appends one, `del_entry` removes one copy, `replace`
swaps the table for another, and each leaves the table as it is when an entry is refused.
A packet goes by the route the table gives its inner destination: of the entries whose
destination holds it, the one of longest prefix, and of those the one added first. Nothing
here reads the port; `RouterRefinement` shows that the port's router layer routes so.
-/

namespace Opte

def RouterCmd.apply (table : List (IpCidr × RouterTarget)) :
    RouterCmd → List (IpCidr × RouterTarget)
  | .addEntry dest target =>
      if validRouterDestTargetPair dest target then table ++ [(dest, target)] else table
  | .delEntry dest target =>
      if validRouterDestTargetPair dest target then table.erase (dest, target) else table
  | .replace entries =>
      if entries.all fun entry => validRouterDestTargetPair entry.1 entry.2 then entries
      else table

def applyRouterCmds (table : List (IpCidr × RouterTarget)) (cmds : List RouterCmd) :
    List (IpCidr × RouterTarget) :=
  cmds.foldl RouterCmd.apply table

example : applyRouterCmds [] noDefaultRouteCmds = guestRoutes.take 1 := by decide

theorem applyRouterCmds_add_del (table : List (IpCidr × RouterTarget)) (cmds : List RouterCmd)
    {dest : IpCidr} {target : RouterTarget} (absent : (dest, target) ∉ applyRouterCmds table cmds) :
    applyRouterCmds table (cmds ++ [.addEntry dest target, .delEntry dest target]) =
      applyRouterCmds table cmds := by
  have unrolled : applyRouterCmds table (cmds ++ [.addEntry dest target, .delEntry dest target]) =
      RouterCmd.apply (RouterCmd.apply (applyRouterCmds table cmds) (.addEntry dest target))
        (.delEntry dest target) := by
    simp only [applyRouterCmds, List.foldl_append, List.foldl_cons, List.foldl_nil]
  rw [unrolled]
  simp only [RouterCmd.apply]
  split
  · rw [List.erase_append_right _ absent, List.erase_cons_head, List.append_nil]
  · rfl

def routeLookup (table : List (IpCidr × RouterTarget)) (addr : IpAddr) :
    Option (IpCidr × RouterTarget) :=
  table.find? fun entry => entry.1.isMember addr &&
    table.all fun other => !other.1.isMember addr || decide (other.1.prefixLen ≤ entry.1.prefixLen)

def routeAction (table : List (IpCidr × RouterTarget)) (meta : PacketMeta) : Action :=
  match meta.innerDst.bind (routeLookup table) with
  | some entry => targetAction entry.2
  | none => .deny

theorem routeLookup_append_of_mem {table : List (IpCidr × RouterTarget)} {dest : IpCidr}
    {target : RouterTarget} (routed : (dest, target) ∈ table) (target' : RouterTarget) :
    routeLookup (table ++ [(dest, target')]) = routeLookup table := by
  funext addr
  have longest : ∀ len, ((table ++ [(dest, target')]).all fun other =>
      !other.1.isMember addr || decide (other.1.prefixLen ≤ len)) =
      table.all fun other => !other.1.isMember addr || decide (other.1.prefixLen ≤ len) := by
    intro len
    rw [List.all_append, List.all_cons, List.all_nil, Bool.and_true, Bool.and_iff_left_iff_imp]
    exact fun holds => List.all_eq_true.mp holds (dest, target) routed
  simp only [routeLookup, longest, List.find?_append]
  rcases found : table.find? _ with _ | route
  · have missed := List.find?_eq_none.mp found _ routed
    refine Option.none_or.trans (List.find?_eq_none.mpr fun entry member => ?_)
    rw [List.mem_singleton.mp member]
    exact missed
  · rfl

end Opte
