import Opte.Text

/-!
The printing routines of the engine's dump commands. Each `println!` is one line of text;
a routine is the list of lines it prints. The format strings `"{:<w₁} {:<w₂} …"` write left
aligned cells, each padded to its width and separated by one space, so a table row lines up
under its header exactly when its cells fit their widths. The main results: the rows of the
rule and flow tables line up under their headers for every rule and flow whose cells fit,
with the priority and port columns always fitting.
-/

namespace Opte

def padRight (fill : Char) (width : Nat) (text : List Char) : List Char :=
  text ++ List.replicate (width - text.length) fill

theorem padRight_length_of_fits {fill : Char} {width : Nat} {text : List Char}
    (fits : text.length ≤ width) : (padRight fill width text).length = width := by
  simp only [padRight, List.length_append, List.length_replicate]
  omega

def row : List (Nat × List Char) → List Char
  | [] => []
  | [(width, text)] => padRight ' ' width text
  | (width, text) :: cell :: rest => padRight ' ' width text ++ ' ' :: row (cell :: rest)

def columnStarts : List Nat → List Nat
  | [] => []
  | width :: rest => 0 :: (columnStarts rest).map (· + (width + 1))

theorem row_aligned : ∀ cells : List (Nat × List Char),
    (∀ cell ∈ cells.dropLast, cell.2.length ≤ cell.1) →
    List.Forall₂ (fun text start => text <+: (row cells).drop start) (cells.map (·.2))
      (columnStarts (cells.map (·.1)))
  | [], _ => .nil
  | [(width, text)], _ => .cons (List.prefix_append _ _) .nil
  | (width, text) :: cell :: rest, fits => by
      have first : text.length ≤ width := fits (width, text) (List.mem_cons_self _ _)
      have later := row_aligned (cell :: rest) fun other member =>
        fits other (List.mem_cons_of_mem _ member)
      refine .cons ((List.prefix_append _ _).trans (List.prefix_append _ _))
        (List.forall₂_map_right_iff.mpr (later.imp fun other start starts => ?_))
      rwa [row, show start + (width + 1) = width + (start + 1) by omega, ← List.drop_drop,
        List.drop_left' (padRight_length_of_fits first), List.drop_succ_cons]

theorem decimal_uint16_length (value : UInt16) : (decimal value.toNat).length ≤ 5 :=
  Nat.repr_length _ _ (by decide) (lt_of_lt_of_le value.toNat_lt_size (by decide))

def printHrb : List Char :=
  padRight '=' 70 ['=']

def printHr : List Char :=
  padRight '-' 70 ['-']

example : printHrb = List.replicate 70 '=' ∧ printHr = List.replicate 70 '-' := by decide

/-! ### Rules -/

structure RuleDump where
  priority : UInt16
  predicates : List (List Char)
  dataPredicates : List (List Char)
  action : List Char

def RuleDump.preds (rule : RuleDump) : List Char :=
  let hdrPreds := List.intercalate [' '] rule.predicates
  let dataPreds := List.intercalate [' '] rule.dataPredicates
  let preds := hdrPreds ++ ' ' :: dataPreds
  if preds = [] then ['*'] else preds

def printRuleHeader : List Char :=
  row [(8, "ID".data), (6, "PRI".data), (48, "PREDICATES".data), (18, "ACTION".data)]

def printRule (id : Nat) (rule : RuleDump) : List Char :=
  row [(8, decimal id), (6, decimal rule.priority.toNat), (48, rule.preds), (0, rule.action)]

/-- A rule's line lines up under the header, as long as its id has at most eight digits and
its predicates fit their 48 columns; the priority always fits its six. -/
theorem printRule_aligned (id : Nat) (rule : RuleDump) (shortId : id < 10 ^ 8)
    (shortPreds : rule.preds.length ≤ 48) :
    List.Forall₂ (fun title start => title <+: printRuleHeader.drop start)
      ["ID".data, "PRI".data, "PREDICATES".data, "ACTION".data] [0, 9, 16, 65] ∧
    List.Forall₂ (fun cell start => cell <+: (printRule id rule).drop start)
      [decimal id, decimal rule.priority.toNat, rule.preds, rule.action] [0, 9, 16, 65] := by
  have priority := decimal_uint16_length rule.priority
  constructor
  · exact row_aligned _ (by decide)
  · refine row_aligned _ fun cell member => ?_
    simp only [List.dropLast, List.mem_cons, List.mem_singleton, List.not_mem_nil,
      or_false] at member
    rcases member with rfl | rfl | rfl
    · exact Nat.repr_length _ _ (by norm_num) shortId
    · exact priority.trans (by norm_num)
    · exact shortPreds

def subnetRuleDump : RuleDump :=
  ⟨18, ["inner.ip.dst=10.0.0.0/24".data], [], "Meta: Target = Subnet: 10.0.0.0/24".data⟩

theorem printRule_aligned_subnetRule :
    (3 < 10 ^ 8 ∧ subnetRuleDump.preds.length ≤ 48) ∧
    List.Forall₂ (fun title start => title <+: printRuleHeader.drop start)
      ["ID".data, "PRI".data, "PREDICATES".data, "ACTION".data] [0, 9, 16, 65] ∧
    List.Forall₂ (fun cell start => cell <+: (printRule 3 subnetRuleDump).drop start)
      [decimal 3, decimal subnetRuleDump.priority.toNat, subnetRuleDump.preds,
        subnetRuleDump.action] [0, 9, 16, 65] :=
  ⟨⟨by norm_num, by decide⟩, printRule_aligned 3 subnetRuleDump (by norm_num) (by decide)⟩

/-! ### Flows -/

structure InnerFlowId where
  proto : List Char
  srcIp : List Char
  srcPort : UInt16
  dstIp : List Char
  dstPort : UInt16

structure FlowEntryDump where
  hits : Nat
  stateSummary : List Char

def printFlowHeader : List Char :=
  row [(6, "PROTO".data), (16, "SRC IP".data), (6, "SPORT".data), (16, "DST IP".data),
    (6, "DPORT".data), (8, "HITS".data), (22, "ACTION".data)]

def printFlow (flowId : InnerFlowId) (flowEntry : FlowEntryDump) : List Char :=
  row [(6, flowId.proto), (16, flowId.srcIp), (6, decimal flowId.srcPort.toNat),
    (16, flowId.dstIp), (6, decimal flowId.dstPort.toNat), (8, decimal flowEntry.hits),
    (22, flowEntry.stateSummary)]

/-- A flow's line lines up under the header when its protocol fits six columns, its
addresses sixteen (which no IPv6 address longer than that does) and its hits eight digits;
the ports always fit. -/
theorem printFlow_aligned (flowId : InnerFlowId) (flowEntry : FlowEntryDump)
    (shortProto : flowId.proto.length ≤ 6) (shortSrc : flowId.srcIp.length ≤ 16)
    (shortDst : flowId.dstIp.length ≤ 16) (fewHits : flowEntry.hits < 10 ^ 8) :
    List.Forall₂ (fun title start => title <+: printFlowHeader.drop start)
      ["PROTO".data, "SRC IP".data, "SPORT".data, "DST IP".data, "DPORT".data, "HITS".data,
        "ACTION".data] [0, 7, 24, 31, 48, 55, 64] ∧
    List.Forall₂ (fun cell start => cell <+: (printFlow flowId flowEntry).drop start)
      [flowId.proto, flowId.srcIp, decimal flowId.srcPort.toNat, flowId.dstIp,
        decimal flowId.dstPort.toNat, decimal flowEntry.hits, flowEntry.stateSummary]
      [0, 7, 24, 31, 48, 55, 64] := by
  have srcPort := decimal_uint16_length flowId.srcPort
  have dstPort := decimal_uint16_length flowId.dstPort
  constructor
  · exact row_aligned _ (by decide)
  · refine row_aligned _ fun cell member => ?_
    simp only [List.dropLast, List.mem_cons, List.mem_singleton, List.not_mem_nil,
      or_false] at member
    rcases member with rfl | rfl | rfl | rfl | rfl | rfl
    · exact shortProto
    · exact shortSrc
    · exact srcPort.trans (by norm_num)
    · exact shortDst
    · exact dstPort.trans (by norm_num)
    · exact Nat.repr_length _ _ (by norm_num) fewHits

def telnetFlow : InnerFlowId × FlowEntryDump :=
  (⟨"TCP".data, "10.0.0.5".data, 7865, "10.0.0.7".data, 23⟩, ⟨1, "SYN_SENT".data⟩)

theorem printFlow_aligned_telnetFlow :
    (telnetFlow.1.proto.length ≤ 6 ∧ telnetFlow.1.srcIp.length ≤ 16 ∧
      telnetFlow.1.dstIp.length ≤ 16 ∧ telnetFlow.2.hits < 10 ^ 8) ∧
    List.Forall₂ (fun title start => title <+: printFlowHeader.drop start)
      ["PROTO".data, "SRC IP".data, "SPORT".data, "DST IP".data, "DPORT".data, "HITS".data,
        "ACTION".data] [0, 7, 24, 31, 48, 55, 64] ∧
    List.Forall₂ (fun cell start => cell <+: (printFlow telnetFlow.1 telnetFlow.2).drop start)
      [telnetFlow.1.proto, telnetFlow.1.srcIp, decimal telnetFlow.1.srcPort.toNat,
        telnetFlow.1.dstIp, decimal telnetFlow.1.dstPort.toNat, decimal telnetFlow.2.hits,
        telnetFlow.2.stateSummary] [0, 7, 24, 31, 48, 55, 64] :=
  ⟨⟨by decide, by decide, by decide, by norm_num [telnetFlow]⟩,
    printFlow_aligned telnetFlow.1 telnetFlow.2 (by decide) (by decide) (by decide)
      (by norm_num [telnetFlow])⟩

/-! ### Whole dumps -/

structure DumpLayerResp where
  name : List Char
  ftIn : List (InnerFlowId × FlowEntryDump)
  ftOut : List (InnerFlowId × FlowEntryDump)
  rulesIn : List (Nat × RuleDump)
  rulesOut : List (Nat × RuleDump)

def printLayer (resp : DumpLayerResp) : List (List Char) :=
  ["Layer ".data ++ resp.name, printHrb, "Inbound Flows".data, printHr, printFlowHeader] ++
    resp.ftIn.map (fun (flowId, flowState) => printFlow flowId flowState) ++
    ["\nOutbound Flows".data, printHr, printFlowHeader] ++
    resp.ftOut.map (fun (flowId, flowState) => printFlow flowId flowState) ++
    ["\nInbound Rules".data, printHr, printRuleHeader] ++
    resp.rulesIn.map (fun (id, rule) => printRule id rule) ++
    ["\nOutbound Rules".data, printHr, printRuleHeader] ++
    resp.rulesOut.map (fun (id, rule) => printRule id rule) ++
    [[]]

structure LayerDesc where
  name : List Char
  rulesIn : Nat
  rulesOut : Nat
  flows : Nat

def printListLayers (layers : List LayerDesc) : List (List Char) :=
  row [(12, "NAME".data), (10, "RULES IN".data), (10, "RULES OUT".data), (10, "FLOWS".data)] ::
    layers.map fun desc =>
      row [(12, desc.name), (10, decimal desc.rulesIn), (10, decimal desc.rulesOut),
        (10, decimal desc.flows)]

structure DumpUftResp where
  inLimit : Nat
  inNumFlows : Nat
  inFlows : List (InnerFlowId × FlowEntryDump)
  outLimit : Nat
  outNumFlows : Nat
  outFlows : List (InnerFlowId × FlowEntryDump)

def printUft (uft : DumpUftResp) : List (List Char) :=
  ["UFT Inbound: ".data ++ decimal uft.inNumFlows ++ '/' :: decimal uft.inLimit, printHr,
    printFlowHeader] ++
    uft.inFlows.map (fun (flowId, flowState) => printFlow flowId flowState) ++
    [[], "UFT Outbound: ".data ++ decimal uft.outNumFlows ++ '/' :: decimal uft.outLimit,
      printHr, printFlowHeader] ++
    uft.outFlows.map (fun (flowId, flowState) => printFlow flowId flowState)

end Opte
