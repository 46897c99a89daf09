import ConsoleSession.Text.Mark

/-!
Directions of writing. A label of a name that has letters written to the left in it runs in one
direction from its first letter on.
-/

namespace ConsoleSession.Text

inductive Direction
  | rightward
  | leftward
  | europeanNumber
  | arabicNumber
  | neutral
  | mark
  deriving DecidableEq, Repr

def leftwardRanges : Ranges := [
  (0x5BE, 0x5BE), (0x5C0, 0x5C0), (0x5C3, 0x5C3), (0x5C6, 0x5C6), (0x5D0, 0x5EA), (0x5EF, 0x5F4),
  (0x608, 0x608), (0x60B, 0x60B), (0x60D, 0x60D), (0x61B, 0x61B), (0x61D, 0x64A), (0x66D, 0x66F),
  (0x671, 0x674), (0x679, 0x6D5), (0x6E5, 0x6E6), (0x6EE, 0x6EF), (0x6FA, 0x70D), (0x710, 0x710),
  (0x712, 0x72F), (0x74D, 0x7A5), (0x7B1, 0x7B1), (0x7C0, 0x7EA), (0x7F4, 0x7F5), (0x7FA, 0x7FA),
  (0x7FE, 0x815), (0x81A, 0x81A), (0x824, 0x824), (0x828, 0x828), (0x830, 0x83E), (0x840, 0x858),
  (0x85E, 0x85E), (0x860, 0x86A), (0x870, 0x88F), (0x8A0, 0x8C9), (0xFBB2, 0xFBC2),
  (0xFE73, 0xFE73), (0x10800, 0x10805), (0x10808, 0x10808), (0x1080A, 0x10835), (0x10837, 0x10838),
  (0x1083C, 0x1083C), (0x1083F, 0x10855), (0x10857, 0x1089E), (0x108A7, 0x108AF),
  (0x108E0, 0x108F2), (0x108F4, 0x108F5), (0x108FB, 0x1091B), (0x10920, 0x10939),
  (0x1093F, 0x10959), (0x10980, 0x109B7), (0x109BC, 0x109CF), (0x109D2, 0x10A00),
  (0x10A10, 0x10A13), (0x10A15, 0x10A17), (0x10A19, 0x10A35), (0x10A40, 0x10A48),
  (0x10A50, 0x10A58), (0x10A60, 0x10A9F), (0x10AC0, 0x10AE4), (0x10AEB, 0x10AF6),
  (0x10B00, 0x10B35), (0x10B40, 0x10B55), (0x10B58, 0x10B72), (0x10B78, 0x10B91),
  (0x10B99, 0x10B9C), (0x10BA9, 0x10BAF), (0x10C00, 0x10C48), (0x10CC0, 0x10CF2),
  (0x10CFA, 0x10D23), (0x10D4A, 0x10D4F), (0x10D6F, 0x10D85), (0x10D8E, 0x10D8F),
  (0x10E80, 0x10EA9), (0x10EAD, 0x10EAD), (0x10EB0, 0x10EB1), (0x10EC2, 0x10EC7),
  (0x10F00, 0x10F27), (0x10F30, 0x10F45), (0x10F51, 0x10F59), (0x10F70, 0x10F81),
  (0x10F86, 0x10F89), (0x10FB0, 0x10FCB), (0x10FE0, 0x10FF6), (0x1E800, 0x1E8C4),
  (0x1E8C7, 0x1E8CF), (0x1E922, 0x1E943), (0x1E94B, 0x1E94B), (0x1E950, 0x1E959),
  (0x1E95E, 0x1E95F), (0x1EC71, 0x1ECB4), (0x1ED01, 0x1ED3D)]

def europeanNumberRanges : Ranges := [
  (0x6F0, 0x6F9), (0x102E1, 0x102FB)]

def arabicNumberRanges : Ranges := [
  (0x660, 0x669), (0x66B, 0x66C), (0x10D30, 0x10D39), (0x10D40, 0x10D49), (0x10E60, 0x10E7E)]

def neutralRanges : Ranges := [
  (0xA1, 0xA7), (0xA9, 0xA9), (0xAB, 0xAC), (0xAE, 0xAE), (0xB0, 0xB1), (0xB6, 0xB7), (0xBB, 0xBB),
  (0xBF, 0xBF), (0xD7, 0xD7), (0xF7, 0xF7), (0x2B9, 0x2BA), (0x2C2, 0x2CF), (0x2D2, 0x2D7),
  (0x2DE, 0x2DF), (0x2E5, 0x2ED), (0x2EF, 0x2FF), (0x375, 0x375), (0x3F6, 0x3F6), (0x58A, 0x58A),
  (0x58D, 0x58F), (0x606, 0x607), (0x609, 0x60A), (0x60C, 0x60C), (0x60E, 0x60F), (0x66A, 0x66A),
  (0x6DE, 0x6DE), (0x6E9, 0x6E9), (0x7F6, 0x7F9), (0x9F2, 0x9F3), (0x9FB, 0x9FB), (0xAF1, 0xAF1),
  (0xBF3, 0xBFA), (0xC78, 0xC7E), (0xE3F, 0xE3F), (0xF3A, 0xF3D), (0x1390, 0x1399),
  (0x1400, 0x1400), (0x169B, 0x169C), (0x17DB, 0x17DB), (0x17F0, 0x17F9), (0x1800, 0x180A),
  (0x1940, 0x1940), (0x1944, 0x1945), (0x19DE, 0x19FF), (0x200C, 0x200D), (0x2010, 0x2010),
  (0x2012, 0x2016), (0x2018, 0x2023), (0x2027, 0x2027), (0x2030, 0x2032), (0x2035, 0x2035),
  (0x2038, 0x203B), (0x203D, 0x203D), (0x203F, 0x2046), (0x204A, 0x2056), (0x2058, 0x205E),
  (0x20A0, 0x20A7), (0x20A9, 0x20C1), (0x2104, 0x2104), (0x2108, 0x2108), (0x2114, 0x2114),
  (0x2117, 0x2118), (0x211E, 0x211F), (0x2123, 0x2123), (0x2125, 0x2125), (0x2127, 0x2127),
  (0x2129, 0x2129), (0x212E, 0x212E), (0x213A, 0x213A), (0x2141, 0x2144), (0x214A, 0x214D),
  (0x218A, 0x218B), (0x2190, 0x222B), (0x222E, 0x222E), (0x2231, 0x2328), (0x232B, 0x2335),
  (0x237B, 0x2394), (0x2396, 0x2429), (0x2440, 0x244A), (0x24EB, 0x26AB), (0x26AD, 0x27FF),
  (0x2900, 0x2A0B), (0x2A0D, 0x2A73), (0x2A77, 0x2ADB), (0x2ADD, 0x2B73), (0x2B76, 0x2BFF),
  (0x2CE5, 0x2CEA), (0x2CF9, 0x2CFF), (0x2E00, 0x2E5D), (0x2E80, 0x2E99), (0x2E9B, 0x2E9E),
  (0x2EA0, 0x2EF2), (0x3001, 0x3001), (0x3003, 0x3004), (0x3008, 0x3020), (0x3030, 0x3030),
  (0x3037, 0x3037), (0x303D, 0x303F), (0x30A0, 0x30A0), (0x30FB, 0x30FB), (0x31C0, 0x31E5),
  (0x4DC0, 0x4DFF), (0xA490, 0xA4C6), (0xA60D, 0xA60F), (0xA673, 0xA673), (0xA67E, 0xA67F),
  (0xA700, 0xA721), (0xA788, 0xA788), (0xA828, 0xA82B), (0xA838, 0xA839), (0xA874, 0xA877),
  (0xAB6A, 0xAB6B), (0xFBC3, 0xFBD2), (0xFD3E, 0xFD4F), (0xFD90, 0xFD91), (0xFDC8, 0xFDCF),
  (0xFDFD, 0xFDFF), (0xFE45, 0xFE46), (0x10101, 0x10101), (0x10140, 0x1018C), (0x10190, 0x1019C),
  (0x101A0, 0x101A0), (0x1091F, 0x1091F), (0x10B39, 0x10B3F), (0x10D6E, 0x10D6E),
  (0x10ED0, 0x10ED8), (0x11052, 0x11065), (0x11660, 0x1166C), (0x11FD5, 0x11FF1),
  (0x16FE2, 0x16FE2), (0x1CC00, 0x1CCD5), (0x1CCFA, 0x1CCFC), (0x1CD00, 0x1CEB3),
  (0x1CEBA, 0x1CED0), (0x1CEE0, 0x1CEF0), (0x1D1E9, 0x1D1EA), (0x1D200, 0x1D241),
  (0x1D245, 0x1D245), (0x1D300, 0x1D356), (0x1E2FF, 0x1E2FF), (0x1EEF0, 0x1EEF1),
  (0x1F000, 0x1F02B), (0x1F030, 0x1F093), (0x1F0A0, 0x1F0AE), (0x1F0B1, 0x1F0BF),
  (0x1F0C1, 0x1F0CF), (0x1F0D1, 0x1F0F5), (0x1F10B, 0x1F10F), (0x1F12F, 0x1F12F),
  (0x1F16D, 0x1F16F), (0x1F1AD, 0x1F1AD), (0x1F260, 0x1F265), (0x1F300, 0x1F6D8),
  (0x1F6DC, 0x1F6EC), (0x1F6F0, 0x1F6FC), (0x1F700, 0x1F7D9), (0x1F7E0, 0x1F7EB),
  (0x1F7F0, 0x1F7F0), (0x1F800, 0x1F80B), (0x1F810, 0x1F847), (0x1F850, 0x1F859),
  (0x1F860, 0x1F887), (0x1F890, 0x1F8AD), (0x1F8B0, 0x1F8BB), (0x1F8C0, 0x1F8C1),
  (0x1F8D0, 0x1F8D8), (0x1F900, 0x1FA57), (0x1FA60, 0x1FA6D), (0x1FA70, 0x1FA7C),
  (0x1FA80, 0x1FA8A), (0x1FA8E, 0x1FAC6), (0x1FAC8, 0x1FAC8), (0x1FACD, 0x1FADC),
  (0x1FADF, 0x1FAEA), (0x1FAEF, 0x1FAF8), (0x1FB00, 0x1FB92), (0x1FB94, 0x1FBEF),
  (0x1FBFA, 0x1FBFA)]

def runningMarks : List Nat := [0xCBF, 0xCC6, 0x11A07, 0x11A08, 0x11C3F]

def followsLetter (c : Char) : Bool :=
  c.toNat == 0x1171E || (isNonspacing c && !runningMarks.contains c.toNat)

def Direction.ofChar (c : Char) : Direction :=
  if c.toNat < 0x80 then
    if c.isAlpha then .rightward else if c.isDigit then .europeanNumber else .neutral
  else if leftwardRanges.has c then .leftward
  else if europeanNumberRanges.has c then .europeanNumber
  else if arabicNumberRanges.has c then .arabicNumber
  else if neutralRanges.has c then .neutral
  else if followsLetter c then .mark
  else .rightward

def Direction.isLeftward (d : Direction) : Bool := d == .leftward || d == .arabicNumber

/-- Marks at the end do not count. A text that runs to the left keeps to one kind of numbers. -/
def runsOneWay (cs : List Char) : Bool :=
  let ds := ((cs.map Direction.ofChar).reverse.dropWhile (· == .mark)).reverse
  match ds.head? with
  | none => cs.isEmpty
  | some .rightward =>
    ds.all (!·.isLeftward) && ds.getLast?.any fun d => d == .rightward || d == .europeanNumber
  | some .leftward =>
    !ds.contains .rightward && ds.getLast?.any (fun d => d != .neutral) &&
      !(ds.contains .europeanNumber && ds.contains .arabicNumber)
  | some _ => false

end ConsoleSession.Text
