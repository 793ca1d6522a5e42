import Opte.Parser

/-!
Where the headers a VPC parse records lie in the packet. Every header parser reads at the
reader and moves it past what it read, and the VPC parser records each header's offset as it
goes, so the headers of every packet it accepts lie end to end, in packet order, from where
the reader stood, and inside the packet: the underlay's Ethernet, IPv6 and Geneve headers
when it read them, then the guest's Ethernet, IP and transport headers. `HeaderOffsets` is
what mutators write back through, so this is what lets them write a header in place.
-/

namespace Opte

def layoutEnd : Nat → List HdrOffset → Option Nat
  | start, [] => some start
  | start, hdr :: rest => if hdr.pktPos = start then layoutEnd (start + hdr.hdrLen) rest else none

theorem layoutEnd_cons {start : Nat} {hdr : HdrOffset} (placed : hdr.pktPos = start)
    (rest : List HdrOffset) : layoutEnd start (hdr :: rest) = layoutEnd (start + hdr.hdrLen) rest := by
  rw [layoutEnd, if_pos placed]

theorem layoutEnd_append (start : Nat) (first second : List HdrOffset) :
    layoutEnd start (first ++ second) = (layoutEnd start first).bind fun mid => layoutEnd mid second := by
  induction first generalizing start with
  | nil => rfl
  | cons hdr rest ih =>
      by_cases placed : hdr.pktPos = start
      · rw [List.cons_append, layoutEnd_cons placed, layoutEnd_cons placed, ih]
      · simp [layoutEnd, placed]

example : layoutEnd 0 [⟨0, 14⟩, ⟨14, 20⟩, ⟨34, 8⟩] = some 42 := rfl

def OuterHeaderOffsets.layout (offsets : OuterHeaderOffsets) : List HdrOffset :=
  offsets.ether.toList ++ offsets.ip.toList ++ offsets.encap.toList

def InnerHeaderOffsets.layout (offsets : InnerHeaderOffsets) : List HdrOffset :=
  offsets.ether :: (offsets.ip.toList ++ offsets.ulp.toList)

def HeaderOffsets.layout (offsets : HeaderOffsets) : List HdrOffset :=
  offsets.outer.layout ++ offsets.inner.layout

section Layout

variable {e : Engine}

theorem ulpHeader_at {proto : Protocol} {rdr : PacketReaderMut} {ulpHi : HdrInfo UlpMeta}
    {ulpHdr : UlpHdr} (found : ulpHeader e proto rdr = .ok (some (ulpHi, ulpHdr))) :
    ulpHi.offset.pktPos = rdr.pos ∧ rdr.pos + ulpHi.offset.hdrLen ≤ rdr.bytes.length := by
  unfold ulpHeader at found
  split at found <;> (try split at found) <;> cases found
  all_goals
    rename_i next parsed
    obtain ⟨start, bytes, past⟩ := PacketReaderMut.parseHdr_map_ok parsed fun _ _ _ => ⟨rfl, rfl⟩
    have within := next.posLe
    rw [bytes, past] at within
    exact ⟨start, within⟩

theorem parseUlp_layout {meta : PacketMeta} {offsets : HeaderOffsets} {ipHi : HdrInfo IpMeta}
    {pseudoCsum : Checksum} {rdr : PacketReaderMut} {info : PacketInfo}
    (freshAt : offsets.inner.ulp = none)
    (parsed : parseUlp e meta offsets ipHi pseudoCsum rdr = .ok info) :
    info.offsets.outer = offsets.outer ∧ info.offsets.inner.ether = offsets.inner.ether ∧
      info.offsets.inner.ip = some ipHi.offset ∧
      ∃ stop ≤ rdr.bytes.length, layoutEnd rdr.pos info.offsets.inner.ulp.toList = some stop := by
  unfold parseUlp at parsed
  split at parsed
  · cases parsed
  · cases parsed
    exact ⟨rfl, rfl, rfl, rdr.pos, rdr.posLe, by simp [freshAt, layoutEnd]⟩
  · rename_i found
    cases parsed
    obtain ⟨start, within⟩ := ulpHeader_at found
    exact ⟨rfl, rfl, rfl, _, within, by simp [layoutEnd, start]⟩

theorem parseInner_layout {arpOk : Bool} {meta : PacketMeta} {offsets : HeaderOffsets}
    {rdr : PacketReaderMut} {info : PacketInfo} (freshAt : offsets.inner = {})
    (parsed : parseInner e arpOk meta offsets rdr = .ok info) :
    info.offsets.outer = offsets.outer ∧
      ∃ stop ≤ rdr.bytes.length, layoutEnd rdr.pos info.offsets.inner.layout = some stop := by
  unfold parseInner at parsed
  split at parsed
  · cases parsed
  rename_i etherHi _ next etherParsed
  obtain ⟨etherAt, sameBytes, nextPos⟩ := PacketReaderMut.parseHdr_ok etherParsed
  have within := next.posLe
  rw [sameBytes, nextPos] at within
  split at parsed
  · split at parsed
    · cases parsed
      refine ⟨rfl, _, within, ?_⟩
      simp [InnerHeaderOffsets.layout, freshAt, layoutEnd, etherAt]
    · cases parsed
  -- IPv4 and IPv6 alike: the IP header, then `parseUlp`
  iterate 2
    · split at parsed
      · cases parsed
      · rename_i ipHi _ ipNext ipParsed
        obtain ⟨ipAt, ipBytes, ipPos⟩ :=
          PacketReaderMut.parseHdr_map_ok ipParsed fun _ _ _ => ⟨rfl, rfl⟩
        obtain ⟨outer, ether, ip, stop, bound, ulp⟩ := parseUlp_layout (by simp [freshAt]) parsed
        refine ⟨outer, stop, by rwa [ipBytes, sameBytes] at bound, ?_⟩
        rw [InnerHeaderOffsets.layout, ether, ip]
        dsimp only
        rw [layoutEnd_cons etherAt, ← nextPos, Option.toList_some, List.singleton_append,
          layoutEnd_cons ipAt, ← ipPos, ulp]
  · cases parsed

theorem parseOuter_layout {rdr : PacketReaderMut} {meta : PacketMeta} {offsets : HeaderOffsets}
    {guest : PacketReaderMut} (parsed : parseOuter e rdr = .ok (meta, offsets, guest)) :
    guest.bytes = rdr.bytes ∧ layoutEnd rdr.pos offsets.outer.layout = some guest.pos := by
  unfold parseOuter at parsed
  split at parsed
  · cases parsed
  rename_i etherHi _ etherNext etherParsed
  obtain ⟨etherAt, etherBytes, etherPos⟩ := PacketReaderMut.parseHdr_ok etherParsed
  split at parsed
  · split at parsed
    · cases parsed
    rename_i ipHi _ ipNext ipParsed
    obtain ⟨ipAt, ipBytes, ipPos⟩ := PacketReaderMut.parseHdr_map_ok ipParsed fun _ _ _ => ⟨rfl, rfl⟩
    split at parsed
    · split at parsed
      · cases parsed
      rename_i geneveHi _ geneveNext geneveParsed
      obtain ⟨geneveAt, geneveBytes, genevePos⟩ := PacketReaderMut.parseHdr_ok geneveParsed
      cases parsed
      refine ⟨geneveBytes.trans (ipBytes.trans etherBytes), ?_⟩
      simp only [OuterHeaderOffsets.layout, Option.toList_some, List.singleton_append,
        List.cons_append, List.nil_append]
      rw [layoutEnd_cons etherAt, ← etherPos, layoutEnd_cons ipAt, ← ipPos,
        layoutEnd_cons geneveAt, ← genevePos, layoutEnd]
    · cases parsed
  · cases parsed

end Layout

/-- The headers of every packet the VPC parser accepts lie end to end in packet order from
where the reader stood, inside the packet: the underlay's Ethernet, IPv6 and Geneve headers
when it read them, then the guest's Ethernet header, IP header and transport header, each
where it recorded them. -/
theorem vpcParser_headers_contiguous (e : Engine) (parser : VpcParser) (rdr : PacketReaderMut)
    (info : PacketInfo)
    (parsed : parser.parseOutbound e rdr = .ok info ∨ parser.parseInbound e rdr = .ok info) :
    ∃ stop ≤ rdr.bytes.length, layoutEnd rdr.pos info.offsets.layout = some stop := by
  have fromGuest : parseInner e true {} {} rdr = .ok info →
      ∃ stop ≤ rdr.bytes.length, layoutEnd rdr.pos info.offsets.layout = some stop :=
    fun guestParsed => by
      obtain ⟨outer, stop, within, guest⟩ := parseInner_layout rfl guestParsed
      exact ⟨stop, within, by rw [HeaderOffsets.layout, outer]; exact guest⟩
  rcases parsed with outbound | inbound
  · exact fromGuest outbound
  unfold VpcParser.parseInbound at inbound
  rcases parser with ⟨_ | _⟩
  · rw [if_pos (by rfl)] at inbound
    split at inbound
    · cases inbound
    rename_i meta offsets guest outerParsed
    obtain ⟨-, freshAt, -⟩ := parseOuter_ok outerParsed
    obtain ⟨sameBytes, outerLayout⟩ := parseOuter_layout outerParsed
    obtain ⟨outer, stop, within, guestLayout⟩ := parseInner_layout freshAt inbound
    refine ⟨stop, sameBytes ▸ within, ?_⟩
    rw [HeaderOffsets.layout, layoutEnd_append, outer, outerLayout]
    exact guestLayout
  · exact fromGuest inbound

set_option maxRecDepth 2000 in
theorem vpcParser_headers_contiguous_wireFrames :
    (∃ info, (VpcParser.mk false).parseOutbound Wire.engine (.new Wire.guestSyn) = .ok info ∧
      info.offsets.layout.length = 3 ∧
      ∃ stop ≤ Wire.guestSyn.length, layoutEnd 0 info.offsets.layout = some stop) ∧
    (∃ info, (VpcParser.mk false).parseInbound Wire.engine (.new Wire.underlaySynAck) = .ok info ∧
      info.offsets.layout.length = 6 ∧
      ∃ stop ≤ Wire.underlaySynAck.length, layoutEnd 0 info.offsets.layout = some stop) :=
  ⟨⟨_, rfl, rfl, vpcParser_headers_contiguous Wire.engine ⟨false⟩ (.new Wire.guestSyn) _ (.inl rfl)⟩,
    ⟨_, rfl, rfl,
      vpcParser_headers_contiguous Wire.engine ⟨false⟩ (.new Wire.underlaySynAck) _ (.inr rfl)⟩⟩

end Opte
