import BuildSession.Unicode.Table

/-!
# Writing direction classes

The classes that the direction rule for host labels tells apart; all classes it refuses in any
label are one.
-/

namespace BuildSession.Unicode

inductive BidiClass where
  | leftToRight
  | rightToLeft
  | arabicLetter
  | arabicNumber
  | europeanNumber
  | europeanSeparator
  | commonSeparator
  | europeanTerminator
  | otherNeutral
  | boundaryNeutral
  | nonspacingMark
  | layout
  deriving DecidableEq

/-- The classes by their number in the table. -/
def BidiClass.ofNumber : Nat → BidiClass
  | 1 => .rightToLeft
  | 2 => .arabicLetter
  | 3 => .arabicNumber
  | 4 => .europeanNumber
  | 5 => .europeanSeparator
  | 6 => .commonSeparator
  | 7 => .europeanTerminator
  | 8 => .otherNeutral
  | 9 => .boundaryNeutral
  | 10 => .nonspacingMark
  | 11 => .layout
  | _ => .leftToRight

/-- The code points that are not plainly written from left to right. -/
def bidiNumbers : Table Nat :=
  .ofClasses
    "0-8=9 9-D=B E-1B=9 1C-20=B 21-22=8 23-25=7 26-2A=8 2B=5 2C=6 2D=5 2E-2F=6 30-39=4 3A=6
     3B-40=8 5B-60=8 7B-7E=8 7F-84=9 85=B 86-9F=9 A0=6 A1=8 A2-A5=7 A6-A9=8 AB-AC=8 AD=9 AE-AF=8
     B0-B1=7 B2-B3=4 B4=8 B6-B8=8 B9=4 BB-BF=8 D7=8 F7=8 2B9-2BA=8 2C2-2CF=8 2D2-2DF=8 2E5-2ED=8
     2EF-2FF=8 300-36F=A 374-375=8 37E=8 384-385=8 387=8 3F6=8 483-489=A 58A=8 58D-58E=8 58F=7
     591-5BD=A 5BE=1 5BF=A 5C0=1 5C1-5C2=A 5C3=1 5C4-5C5=A 5C6=1 5C7=A 5D0-5EA=1 5EF-5F4=1
     600-605=3 606-607=8 608=2 609-60A=7 60B=2 60C=6 60D=2 60E-60F=8 610-61A=A 61B-64A=2
     64B-65F=A 660-669=3 66A=7 66B-66C=3 66D-66F=2 670=A 671-6D5=2 6D6-6DC=A 6DD=3 6DE=8
     6DF-6E4=A 6E5-6E6=2 6E7-6E8=A 6E9=8 6EA-6ED=A 6EE-6EF=2 6F0-6F9=4 6FA-70D=2 70F-710=2 711=A
     712-72F=2 730-74A=A 74D-7A5=2 7A6-7B0=A 7B1=2 7C0-7EA=1 7EB-7F3=A 7F4-7F5=1 7F6-7F9=8 7FA=1
     7FD=A 7FE-815=1 816-819=A 81A=1 81B-823=A 824=1 825-827=A 828=1 829-82D=A 830-83E=1
     840-858=1 859-85B=A 85E=1 860-86A=2 870-88F=2 890-891=3 897-89F=A 8A0-8C9=2 8CA-8E1=A 8E2=3
     8E3-902=A 93A=A 93C=A 941-948=A 94D=A 951-957=A 962-963=A 981=A 9BC=A 9C1-9C4=A 9CD=A
     9E2-9E3=A 9F2-9F3=7 9FB=7 9FE=A A01-A02=A A3C=A A41-A42=A A47-A48=A A4B-A4D=A A51=A
     A70-A71=A A75=A A81-A82=A ABC=A AC1-AC5=A AC7-AC8=A ACD=A AE2-AE3=A AF1=7 AFA-AFF=A B01=A
     B3C=A B3F=A B41-B44=A B4D=A B53-B56=A B62-B63=A B82=A BC0=A BCD=A BF3-BF8=8 BF9=7 BFA=8
     C00=A C04=A C3C=A C3E-C40=A C46-C48=A C4A-C4D=A C55-C56=A C62-C63=A C78-C7E=8 C81=A CBC=A
     CCC-CCD=A CE2-CE3=A D00-D01=A D3B-D3C=A D41-D44=A D4D=A D62-D63=A D81=A DCA=A DD2-DD4=A
     DD6=A E31=A E34-E3A=A E3F=7 E47-E4E=A EB1=A EB4-EBC=A EC8-ECE=A F18-F19=A F35=A F37=A F39=A
     F3A-F3D=8 F71-F7E=A F80-F84=A F86-F87=A F8D-F97=A F99-FBC=A FC6=A 102D-1030=A 1032-1037=A
     1039-103A=A 103D-103E=A 1058-1059=A 105E-1060=A 1071-1074=A 1082=A 1085-1086=A 108D=A 109D=A
     135D-135F=A 1390-1399=8 1400=8 1680=B 169B-169C=8 1712-1714=A 1732-1733=A 1752-1753=A
     1772-1773=A 17B4-17B5=A 17B7-17BD=A 17C6=A 17C9-17D3=A 17DB=7 17DD=A 17F0-17F9=8 1800-180A=8
     180B-180D=A 180E=9 180F=A 1885-1886=A 18A9=A 1920-1922=A 1927-1928=A 1932=A 1939-193B=A
     1940=8 1944-1945=8 19DE-19FF=8 1A17-1A18=A 1A1B=A 1A56=A 1A58-1A5E=A 1A60=A 1A62=A
     1A65-1A6C=A 1A73-1A7C=A 1A7F=A 1AB0-1ADD=A 1AE0-1AEB=A 1B00-1B03=A 1B34=A 1B36-1B3A=A 1B42=A
     1B6B-1B73=A 1B80-1B81=A 1BA2-1BA5=A 1BA8-1BA9=A 1BAB-1BAD=A 1BE6=A 1BE8-1BE9=A 1BED=A
     1BEF-1BF1=A 1C2C-1C33=A 1C36-1C37=A 1CD0-1CD2=A 1CD4-1CE0=A 1CE2-1CE8=A 1CED=A 1CF4=A
     1CF8-1CF9=A 1DC0-1DFF=A 1FBD=8 1FBF-1FC1=8 1FCD-1FCF=8 1FDD-1FDF=8 1FED-1FEF=8 1FFD-1FFE=8
     2000-200A=B 200B-200D=9 200F=1 2010-2027=8 2028-202E=B 202F=6 2030-2034=7 2035-2043=8 2044=6
     2045-205E=8 205F=B 2060-2064=9 2066-2069=B 206A-206F=9 2070=4 2074-2079=4 207A-207B=5
     207C-207E=8 2080-2089=4 208A-208B=5 208C-208E=8 20A0-20C3=7 20D0-20F0=A 2100-2101=8
     2103-2106=8 2108-2109=8 2114=8 2116-2118=8 211E-2123=8 2125=8 2127=8 2129=8 212E=7
     213A-213B=8 2140-2144=8 214A-214D=8 2150-215F=8 2189-218B=8 2190-2211=8 2212=5 2213=7
     2214-2335=8 237B-2394=8 2396-2429=8 2440-244A=8 2460-2487=8 2488-249B=4 24EA-26AB=8
     26AD-27FF=8 2900-2B73=8 2B76-2BFF=8 2CE5-2CEA=8 2CEF-2CF1=A 2CF9-2CFF=8 2D7F=A 2DE0-2DFF=A
     2E00-2E5D=8 2E80-2E99=8 2E9B-2EF3=8 2F00-2FD5=8 2FF0-2FFF=8 3000=B 3001-3004=8 3008-3020=8
     302A-302D=A 3030=8 3036-3037=8 303D-303F=8 3099-309A=A 309B-309C=8 30A0=8 30FB=8 31C0-31E5=8
     31EF=8 321D-321E=8 3250-325F=8 327C-327E=8 32B1-32BF=8 32CC-32CF=8 3377-337A=8 33DE-33DF=8
     33FF=8 4DC0-4DFF=8 A490-A4C6=8 A60D-A60F=8 A66F-A672=A A673=8 A674-A67D=A A67E-A67F=8
     A69E-A69F=A A6F0-A6F1=A A700-A721=8 A788=8 A802=A A806=A A80B=A A825-A826=A A828-A82B=8
     A82C=A A838-A839=7 A874-A877=8 A8C4-A8C5=A A8E0-A8F1=A A8FF=A A926-A92D=A A947-A951=A
     A980-A982=A A9B3=A A9B6-A9B9=A A9BC-A9BD=A A9E5=A AA29-AA2E=A AA31-AA32=A AA35-AA36=A AA43=A
     AA4C=A AA7C=A AAB0=A AAB2-AAB4=A AAB7-AAB8=A AABE-AABF=A AAC1=A AAEC-AAED=A AAF6=A
     AB6A-AB6B=8 ABE5=A ABE8=A ABED=A FB1D=1 FB1E=A FB1F-FB28=1 FB29=5 FB2A-FB36=1 FB38-FB3C=1
     FB3E=1 FB40-FB41=1 FB43-FB44=1 FB46-FB4F=1 FB50-FBC2=2 FBC3-FBD2=8 FBD3-FD3D=2 FD3E-FD4F=8
     FD50-FD8F=2 FD90-FD91=8 FD92-FDC7=2 FDC8-FDCF=8 FDF0-FDFC=2 FDFD-FDFF=8 FE00-FE0F=A
     FE10-FE19=8 FE20-FE2F=A FE30-FE4F=8 FE50=6 FE51=8 FE52=6 FE54=8 FE55=6 FE56-FE5E=8 FE5F=7
     FE60-FE61=8 FE62-FE63=5 FE64-FE66=8 FE68=8 FE69-FE6A=7 FE6B=8 FE70-FE74=2 FE76-FEFC=2 FEFF=9
     FF01-FF02=8 FF03-FF05=7 FF06-FF0A=8 FF0B=5 FF0C=6 FF0D=5 FF0E-FF0F=6 FF10-FF19=4 FF1A=6
     FF1B-FF20=8 FF3B-FF40=8 FF5B-FF65=8 FFE0-FFE1=7 FFE2-FFE4=8 FFE5-FFE6=7 FFE8-FFEE=8
     FFF9-FFFD=8 10101=8 10140-1018C=8 10190-1019C=8 101A0=8 101FD=A 102E0=A 102E1-102FB=4
     10376-1037A=A 10800-10805=1 10808=1 1080A-10835=1 10837-10838=1 1083C=1 1083F-10855=1
     10857-1089E=1 108A7-108AF=1 108E0-108F2=1 108F4-108F5=1 108FB-1091B=1 1091F=8 10920-10939=1
     1093F-10959=1 10980-109B7=1 109BC-109CF=1 109D2-10A00=1 10A01-10A03=A 10A05-10A06=A
     10A0C-10A0F=A 10A10-10A13=1 10A15-10A17=1 10A19-10A35=1 10A38-10A3A=A 10A3F=A 10A40-10A48=1
     10A50-10A58=1 10A60-10A9F=1 10AC0-10AE4=1 10AE5-10AE6=A 10AEB-10AF6=1 10B00-10B35=1
     10B39-10B3F=8 10B40-10B55=1 10B58-10B72=1 10B78-10B91=1 10B99-10B9C=1 10BA9-10BAF=1
     10C00-10C48=1 10C80-10CB2=1 10CC0-10CF2=1 10CFA-10CFF=1 10D00-10D23=2 10D24-10D27=A
     10D30-10D39=3 10D40-10D49=3 10D4A-10D65=1 10D69-10D6D=A 10D6E=8 10D6F-10D85=1 10D8E-10D8F=1
     10E60-10E7E=3 10E80-10EA9=1 10EAB-10EAC=A 10EAD=1 10EB0-10EB1=1 10EC2-10EC7=2 10ECC-10EDF=8
     10EE0-10EE7=A 10EE8-10EEF=2 10EF0-10EFF=A 10F00-10F27=1 10F30-10F45=2 10F46-10F50=A
     10F51-10F59=2 10F70-10F81=1 10F82-10F85=A 10F86-10F89=1 10FB0-10FCB=1 10FE0-10FF6=1 11001=A
     11038-11046=A 11052-11065=8 11070=A 11073-11074=A 1107F-11081=A 110B3-110B6=A 110B9-110BA=A
     110C2=A 11100-11102=A 11127-1112B=A 1112D-11134=A 11173=A 11180-11181=A 111B6-111BE=A
     111C9-111CC=A 111CF=A 1122F-11231=A 11234=A 11236-11237=A 1123E=A 11241=A 112DF=A
     112E3-112EA=A 11300-11301=A 1133B-1133C=A 11340=A 11366-1136C=A 11370-11374=A 113BB-113C0=A
     113CE=A 113D0=A 113D2=A 113E1-113E2=A 11438-1143F=A 11442-11444=A 11446=A 1145E=A
     114B3-114B8=A 114BA=A 114BF-114C0=A 114C2-114C3=A 115B2-115B5=A 115BC-115BD=A 115BF-115C0=A
     115DC-115DD=A 11633-1163A=A 1163D=A 1163F-11640=A 11660-1166C=8 116AB=A 116AD=A
     116B0-116B5=A 116B7=A 1171D=A 1171F=A 11722-11725=A 11727-1172B=A 1182F-11837=A
     11839-1183A=A 1193B-1193C=A 1193E=A 11943=A 119D4-119D7=A 119DA-119DB=A 119E0=A
     11A01-11A06=A 11A09-11A0A=A 11A33-11A38=A 11A3B-11A3E=A 11A47=A 11A51-11A56=A 11A59-11A5B=A
     11A8A-11A96=A 11A98-11A99=A 11B60=A 11B62-11B64=A 11B66=A 11C30-11C36=A 11C38-11C3D=A
     11C92-11CA7=A 11CAA-11CB0=A 11CB2-11CB3=A 11CB5-11CB6=A 11D31-11D36=A 11D3A=A 11D3C-11D3D=A
     11D3F-11D45=A 11D47=A 11D90-11D91=A 11D95=A 11D97=A 11EF3-11EF4=A 11F00-11F01=A
     11F36-11F3A=A 11F40=A 11F42=A 11F5A=A 11FD5-11FDC=8 11FDD-11FE0=7 11FE1-11FF1=8 13440=A
     13447-13455=A 1611E-16129=A 1612D-1612F=A 16AF0-16AF4=A 16B30-16B36=A 16F4F=A 16F8F-16F92=A
     16FE2=8 16FE4=A 1BC9D-1BC9E=A 1BCA0-1BCA3=9 1CC00-1CCD5=8 1CCF0-1CCF9=4 1CCFA-1CCFC=8
     1CD00-1CEB3=8 1CEBA-1CEFF=8 1CF00-1CF2D=A 1CF30-1CF46=A 1D167-1D169=A 1D173-1D17A=9
     1D17B-1D182=A 1D185-1D18B=A 1D1AA-1D1AD=A 1D1E9-1D1EA=8 1D200-1D241=8 1D242-1D244=A 1D245=8
     1D250-1D28F=8 1D300-1D356=8 1D6C1=8 1D6DB=8 1D6FB=8 1D715=8 1D735=8 1D74F=8 1D76F=8 1D789=8
     1D7A9=8 1D7C3=8 1D7CE-1D7FF=4 1DA00-1DA36=A 1DA3B-1DA6C=A 1DA75=A 1DA84=A 1DA9B-1DA9F=A
     1DAA1-1DAAF=A 1DB00-1DB3F=8 1E000-1E006=A 1E008-1E018=A 1E01B-1E021=A 1E023-1E024=A
     1E026-1E02A=A 1E08F=A 1E130-1E136=A 1E2AE=A 1E2EC-1E2EF=A 1E2FF=7 1E4EC-1E4EF=A
     1E5EE-1E5EF=A 1E6E3=A 1E6E6=A 1E6EE-1E6EF=A 1E6F5=A 1E800-1E8C4=1 1E8C7-1E8CF=1
     1E8D0-1E8D6=A 1E900-1E943=1 1E944-1E94A=A 1E94B=1 1E950-1E959=1 1E95E-1E95F=1 1EC71-1ECB4=2
     1ED01-1ED3D=2 1EE00-1EE03=2 1EE05-1EE1F=2 1EE21-1EE22=2 1EE24=2 1EE27=2 1EE29-1EE32=2
     1EE34-1EE37=2 1EE39=2 1EE3B=2 1EE42=2 1EE47=2 1EE49=2 1EE4B=2 1EE4D-1EE4F=2 1EE51-1EE52=2
     1EE54=2 1EE57=2 1EE59=2 1EE5B=2 1EE5D=2 1EE5F=2 1EE61-1EE62=2 1EE64=2 1EE67-1EE6A=2
     1EE6C-1EE72=2 1EE74-1EE77=2 1EE79-1EE7C=2 1EE7E=2 1EE80-1EE89=2 1EE8B-1EE9B=2 1EEA1-1EEA3=2
     1EEA5-1EEA9=2 1EEAB-1EEBB=2 1EEF0-1EEF1=8 1F000-1F02B=8 1F030-1F093=8 1F0A0-1F0AE=8
     1F0B1-1F0BF=8 1F0C1-1F0CF=8 1F0D1-1F0F5=8 1F100-1F10A=4 1F10B-1F10F=8 1F12F=8 1F16A-1F16F=8
     1F1AD=8 1F260-1F265=8 1F300-1F6D9=8 1F6DC-1F6EC=8 1F6F0-1F6FC=8 1F700-1F7EB=8 1F7F0=8
     1F800-1F80B=8 1F810-1F847=8 1F850-1F859=8 1F860-1F887=8 1F890-1F8AD=8 1F8B0-1F8BB=8
     1F8C0-1F8C1=8 1F8D0-1F8D8=8 1F900-1FA57=8 1FA60-1FA6D=8 1FA70-1FA7C=8 1FA80-1FA8C=8
     1FA8E-1FAC6=8 1FAC8=8 1FACC-1FADD=8 1FADF-1FAEB=8 1FAEF-1FAFA=8 1FB00-1FB92=8 1FB94-1FBEF=8
     1FBF0-1FBF9=4 1FBFA=8 E0001=9 E0020-E007F=9 E0100-E01EF=A"

def bidiClass (n : Nat) : BidiClass :=
  .ofNumber ((bidiNumbers.find? n).getD 0)

end BuildSession.Unicode
