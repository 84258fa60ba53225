/-! # Names of historic scripts

    The names of the code points from U+10000 to U+1CFFF, those in numbered
    series apart, each as what is new in it after the one before. -/

namespace ModuleDocs.CharacterName

/-- The names, written briefly: the first code point, and the names from it on. -/
def scripts : List (Nat × List String) := [
  (0x10000, [
    "0s+cL[7cOaI3B038 i/3B028 ow3B061 yh3B010 _^3B001 gq3B045 hR3cNhm3B014 iI3B051 in3B057 pw3B",
    "046 p>"]),
  (0x1000D, [
    "0s+cL[7B036 qA3B065 qJ3B077 qN3B044 qt3B067 rH3B070 ra3B081 r:3B080 uC3B013 u;3B073 vL3B01",
    "5 ve3B023 v|3cMwW3B024 wx3B030 xU3B052 xv3B055 yA3B003 zi3B072 .I3B039 .s3B011 :K3B050 :=3",
    "B016 :+3B078 ;G3B021 ;H3B032 ;K"]),
  (0x10028, [
    "0s+cL[7B060 ;c3B027 ;<3B053 <R3B002 <t3B026 <(3B031 =I3cP=s3B041 >~3B012 ?y3B058 @<3B059 [",
    "e3B004 [*3B037 ]^3B005 ^13B069 _53B054 ~E3B075 ~33B040 ~j3B042 ~w"]),
  (0x1003C, ["0s+cL[7B017 /B3B074 /N"]),
  (0x1003F, [
    "0s+cL[7B020 /a3B025 aP3B043 A3 3B085 b%3B071 iy3B090 DWO 3B048 yR3B029 PU2 3B062 PTE 3B076",
    " RA2 3B033 RA3 3B068 RO2 3B066 TA2 3B087 _l3B091 _z"]),
  (0x10050, [
    "0s+cL[8B018 3B019 3B022 3B034 3B047 3B049 3B056 3B063 3B064 3B079 3B082 3B083 3B086 3B089 "]),
  (0x10080, [
    "0s+cLo[B100 uW3B102 ~y3B104 hX3B105 EQUID 3B105F MARE 3B105M STALLION 3B106F kL3B106M ;s3B",
    "107F SHE-GOAT 3B107M HE-GOAT 3B108F SOW 3B108M df3B109F f+3B109M BULL 3B120 ~e3B121 BARLEY",
    " 3B122 y@3B123 SPICE 3B125 CYPERUS 2voB127 KAPO 3B128 KANAKO 2o[B130 yy3B131 ~s3B132 2voB1",
    "33 AREPA 3B135 MERI 2o[B140 BRONZE 3B141 mr3B142 3B145 ~=3B146 3B150 3B151 o13B152 3B153 3",
    "B154 2voB156 TURO2 2o[B157 3B158 3B159 fh3B160 3B161 3B162 GARMENT 3B163 ARMOUR "]),
  (0x100B5, ["0s+cLo[B173 vs3B174 3B176 ^."]),
  (0x100C1, [
    "0s+cLo[B189 3B190 3B191 n<3B220 FOOTSTOOL 3B225 ct3B230 ?+3B231 +3B232 3B233 SWORD 3B234 3",
    "B236 3B240 WHEELED e_3B241 e_3B242 e_la3B243 ~f3B245 3B246 2voB247 DIPTE 2o[B248 3B249 3B2",
    "51 3B252 3B253 3B254 DART "]),
  (0x100DE, ["0s+cLo[|yB155 "]),
  (0x100F3, ["0s+cLo[|yB221 4B222 4B226 4B227 4B228 4B229 4B250 4B305 "]),
  (0x10100, ["0ai~>=!s*3iX1e!u8"]),
  (0x10107, [
    "0aiyHy/2_z2]:2l42k/2?Y2=+2jU2x82]K2_q2]q2l02ky2?42>A2jZ2xa2y/oi2_zoi2]:oi2l4oi2k/oi2?Yoi2=",
    "+oi2jUoi2x8oi2y/]y2_z]y2]:]y2l4]y2k/]y2?Y]y2=+]y2jU]y2x8]y2]K]y2_q]y2]q]y2l0]y2ky]y2?4]y2>",
    "A]y2jZ]y2xa]y"]),
  (0x10137, [
    "0ai~8cm|P2k^@#2=w@#2]n@#2l6@#1imu<k^@#1tEu<k^@#1u<=w@#2]n@#0m>ACROPHONIC ATTIC y/;U4nT4ia3",
    "k/3ky3k/oi4]y3ky]y3k/[x3]K[x3ky[x3y/oi[x3k/oi[x3y/]y[x3k/]y[x4@e3]K@e3ky@e3y/oi@e3k/oi@e3y",
    "/]y@e3]K]y@e3ky]y@e3]Kvd2HERAEUM y/PLETHRON 2]gy/2n@y/2j<_z2]g_z2CYRENAIC _zib2j<_zib2^$k/",
    "3]K4a,&2n@]K2MESSENIAN ]K2]g]K3]q2^$ky4a,&2n@ky2]gky3y/oi3]:oi2j<k/oi2^$k/oi2]gk/oi2CARYST",
    "IAN k/oi2NAXIAN k/oi2]gy/]y3k/]y2DELPHIC k/vd2STRATIAN kyvd1y/nT)4a,&1_z]o)1]:;V)1#2)1TALE",
    "NT )1ia)1OBOL )1_zyl)1]:yl)1l4yl)1k/yl)1METRETES )1KYATHOS cm)1LITRA )1OUNKIA )1XESTES )1A",
    "RTABE )1AROURA )1GRAMMA )1TRYBLION cm)1/S)1y/;U)1SINUSOID )1INDICTION )0NOMISMA )"]),
  (0x10190, [
    "0<:SEXTANS )1UNCIA )1SEMUNCIA )1>B)1DIMIDIA >B)1SILIQUA )1DENARIUS )1QUINARIUS )1SESTERTIU",
    "S )1DUPONDIUS )1b;)1CENTURIAL )0ASCIA [8"]),
  (0x101A0, ["0m>[8[~<Q"]),
  (0x101D0, [
    "0PHAISTOS h!).N3PLUMED np3TATTOOED np3CAPTIVE 3fE3~y3n<3GAUNTLET 3TIARA 3+3dx3>d3fk3MANACL",
    "ES 3MATTOCK 3=g3s/3dq3ee:C3DOLIUM 3COMB 3SLING 3COLUMN 3BEEHIVE 3>i3o13HIDE 3BULLS ss3ei3;",
    "s3i%3i63TUNNY 3c]3:C^.3|?3PAPYRUS 3<?3LILY 3zccT3lI3GRATER 3STRAINER 3%cD3~WBAND 3fsyk@z"]),
  (0x10280, [
    "0LYCIAN $aI2i/2cL2BH 2lx2gp2ow2~D2/A2]22pu2qM2:*2r*2t:2wT2vc2xs2_^2zh2rW2;a2=G2[d2_P2bH2jk",
    "2nL2~$"]),
  (0x102A0, [
    "0CARIAN $aI2P2 2gp2r*2UUU 2;a2LD 2aP2:*2cL2t:2yh2D2 2[d2>E2SH2 2=G2C-18 2_^2xs2~$2wT2TT2 2",
    "zh2@S2ow2i/2UUUU 2qM2K2 2ND 2|a2lx2G2 2@82ST2 2w$2o)2C-39 2_P2UUU2 2<#2ul2MB2 2MB3 2MB4 2L",
    "D2 2i!2UUU3 "]),
  (0x102E0, [
    "0f$EPACT ]zu82h:y/3_z3]:3l43k/3?Y3=+3jU3x82yH]K3_q3]q3l03ky3?43>A3jZ3xa3y/oi3_zoi3]:oi3l4o",
    "i3k/oi3?Yoi3=+oi3jUoi3x8oi"]),
  (0x10300, [
    "0y=pm$aI3c<3qt3hR3i/3|n3/N3no3]93ow3qN3j43je3jk3j&3yh3.I3>Z3r:3j_3j$3[*3_^3EKS 3.j3q)3jG3E",
    "RS 3e/3o)3|a3ESS 2yIy/3k/3]K3ky"]),
  (0x1032D, [
    "0y=pm$#13x<_D3?!_D0GOTHIC $AHSA 2BAIRKAN 2GIBA 2DAGS 2AIHVUS 2QAIRTHRA 2IUJA 2HAGL 2THIUTH",
    " 2EIS 2KUSMA 2LAGUS 2MANNA 2NAUTHS 2JER 2URUS 2PAIRTHRA 2xa2RAIDA 2SAUIL 2TEIWS 2WINJA 2FA",
    "IHU 2IGGWS 2om2OTHAL 2x8oi"]),
  (0x10350, [
    "0y=.6$bH3eF3GAI 3iP3i/3ZHOI 3DZHOI 3/K3DZITA 3ow3KOKE 3LEI 3MENOE 3w=3VOOI 3PEEI 3REI 3>,3",
    "[s3_^3CHERY 3SHOOI 3SHCHOOI 3YRY 3#c3yh3y(3jG3nM3TSIU 3VER 3#a3#b3#V3o/3#=3#F3ox0fsy=.6$bH",
    "4iP4/K4w=4>,"]),
  (0x10380, [
    "0_*$ALPA 2dE2GAMLA 2q|2h42oN2~w2/T2HOTA 2]T2#w2qW2>h2sQ2u%2DHAL 2yL2/d2SAMKA 2av2:=2=L2QOP",
    "A 2RASHA 2THANNA 2m32^12ow2_^2@6"]),
  (0x1039F, [
    "0_*~>h+0y=.8)aI3ow3_^3qN3r:3ly3m/3~%3eT3pw3p~3[e3_53gq3hm3in3]33zi3cQ3k53wW3yA3uC3vL3v|3#F",
    "3|e3|.3;c3<(3r,3=I3/B3>F3@T3nM"]),
  (0x103C8, [
    "0y=.8)AURAMAZDAA 3AURAMAZDAA-2 3AURAMAZDAAHA 3XSHAAYATHIYA 3DAHYAAUSH 3DAHYAAUSH-2 3BAGA 3",
    "BUUMISH 2~>h+2yHy/3_z3]K3_q3oi"]),
  (0x10400, [
    "0DESERET ($tYow4i/4aI4as4yh4y(3>uow4i/4aI4as4yh4y(3cE3zb3~|3#33nL3.O3c]3]B3hW3e%3p?3qq3l&3",
    "jG3|q3kC3]a3j$3/O3j&3/X3j_3j43je3jk3jq3yx3kK1%$tYow4i/4aI4as4yh4y(3>uow4i/4aI4as4yh4y(3cE3",
    "zb3~|3#33nL3.O3c]3]B3hW3e%3p?3qq3l&3jG3|q3kC3]a3j$3/O3j&3/X3j_3j43je3jk3jq3yx3kK0SHAVIAN $",
    "PEEP 2^o2KICK 2kk2THIGH 2?y2SURE 2fR2YEA 2HUNG 2BIB 2DEAD 2GAG 2VOW 2THEY 2/b2u<2JUDGE 2WO",
    "E 2HA-HA 2LOLL 2MIME 2IF 2jI2b>2ADO 2y~2~=2zX2as2ROAR 2yL2i,2AGE 2o;2|U2OAK 2OOZE 2yy2AWE ",
    "2ARE 2zH2aw2j!2ARRAY 2i&2oy2YEW 0zR$a@2cQ2[e2pw2~%2q|2DEEL 2;c2=I2SHIIN 2hj2en2ly2k52;A2qQ",
    "2LAAN 2MIIN 2NUUN 2~X2nM2#F2aI2i/2ow2yh2_^2aR2jF2y("]),
  (0x104A0, ["0zRh:/S2y/2_z2]:2l42k/2?Y2=+2jU2x8"]),
  (0x104B0, [
    "0zQ($aI3au3av3as3d:3e<3jN3i/3j03nM3or3ow3qN3jO3r(3r,3uC3wW3yh3yz3zi3jP3=I3>F3[e3jQ3_A3jR3_",
    "F3hj3_^3~E3q|3m03/B3/U"]),
  (0x104D8, [
    "0zQ%$aI3au3av3as3d:3e<3jN3i/3j03nM3or3ow3qN3jO3r(3r,3uC3wW3yh3yz3zi3jP3=I3>F3[e3jQ3_A3jR3_",
    "F3hj3_^3~E3q|3m03/B3/U"]),
  (0x10500, [
    "0ELBASAN $aI2c<2er2e/2hR2wq2hk2jS2i/2ki2mF2mi2no2ow2p>2qt2se2LLE 2u;2wx2wW2xh2yh2.I2;G2;<2",
    "<!2=s2>Z2[*2]92_^2|n2~(2#D2/N2/W2m52GHAMMA 2q)"]),
  (0x10530, [
    "0eja?$ALT 3dD3me3g)3jA3ZARL 3kZ3ZHIL 3TAS 3e<3YOWD 3/U3IRB 3>F3sV3INYA 3XEYN 3DYAN 3ea3JHO",
    "X 3KAR 3LYIT 3HEYT 3QAY 3AOR 3CHOY 3fB3CYAY 3u43;E3NOWC 3DZYAY 3SHAK 3JAYN 3y~3TYAY 3FAM 3",
    "DZAY 3e#3.S3GHEYS 3;x3SEYK 3VEYZ 3TIWR 3>x3IWN 3CYAW 3en3YAYD 3.*3KIW "]),
  (0x1056F, ["0eja?CITATION u80|_($aI3cx3c<3er3e/3hR3hk3jS3i/3ki3ly"]),
  (0x1057C, ["0|_($nM3n#3ow3o+3p>3qN3r,3tP3u;3wx3xh3yh3.I3:+3;<"]),
  (0x1058C, ["0|_($=s3>Z3[*3]93_^3|n3~("]),
  (0x10594, ["0|_($#D3/N"]),
  (0x10597, ["0|_%$aI3cx3c<3er3e/3hR3hk3jS3i/3ki3ly"]),
  (0x105A3, ["0|_%$nM3n#3ow3o+3p>3qN3r,3tP3u;3wx3xh3yh3.I3:+3;<"]),
  (0x105B3, ["0|_%$=s3>Z3[*3]93_^3|n3~("]),
  (0x105BB, ["0|_%$#D3/N"]),
  (0x1060B, [
    "0s+aI)AB013 3AB016 3AB017 3AB020 3AB021 3AB021F 3AB021M 3AB022 3AB022F 3AB022M 3AB023 3AB0",
    "23M 3AB024 3AB026 3AB027 3AB028 3A028B 3AB029 3AB030 3AB031 3AB034 "]),
  (0x10636, ["0s+aI)AB065 3AB066 3AB067 3AB069 3AB070 3AB073 3AB074 "]),
  (0x10644, [
    "0s+aI)AB085 3AB086 3AB087 3A100-102 3AB118 3AB120 3A120B 3AB122 3AB123 3AB131A 3AB131B 3A1",
    "31C 3AB164 3AB171 3AB180 3AB188 3AB191 "]),
  (0x1065D, ["0s+aI)aQ3A309B 3A309C 3A310 3A311 3A312 3A313A 3A313B 3A313C "]),
  (0x106A0, [
    "0s+aI)A400-VAS 3A401-VAS 3A402-VAS 3A403-VAS 3A404-VAS 3A405-VAS 3A406-VAS 3A407-VAS 3A408",
    "-VAS 3A409-VAS 3A410-VAS 3A411-VAS 3A412-VAS 3A413-VAS 3A414-VAS 3A415-VAS 3A416-VAS 3A417",
    "-VAS 3A418-VAS "]),
  (0x106BF, ["0s+aI)A515 3A516 3A520 3A521 "]),
  (0x106D6, ["0s+aI)A545 "]),
  (0x106E2, ["0s+aI)A559 3A563 3A564 3A565 3A566 "]),
  (0x106FD, ["0s+aI)A591 3A592 3A594 3A595 3A596 3A598 "]),
  (0x10708, ["0s+aI)A606 "]),
  (0x1071A, ["0s+aI)A626 3A627 3A628 3A629 3A634 3A637 3A638 3A640 "]),
  (0x10727, ["0s+aI)A648 3A649 "]),
  (0x10740, [
    "0s+aI)A701 aI3A702 cL3A703 gp3A704 i/3A705 k43A706 nL3A707 pu3A708 qM3A709 r*3A709-2 L2 3A",
    "709-3 L3 3A709-4 L4 3A709-6 L6 3A710 ~D3A711 ~$3A712 #D3A713 y]3A714 ABB 3A715 BB 3A717 DD",
    " 3A726 EYYY 3A732 p>"]),
  (0x10780, ["0vh$%(aR2[F^]fr3nT^]fr2%ad3(cL3cL!oX"]),
  (0x10787, [
    "0vh$%i:h=5!<GoX6g03hhh=3gp![t5oX6*[t3<Ki/3ff<Ky,i/3krh=3;to13(lx3lx!oX3(lx!oX3nL!@z3(nL3n>",
    "!oX3iYpu!@z*oX3teh=3t.h=3r*!c(3(r*!c(3r*!<GoX*c(3s[4!<GoX3_f#D5!c(3yh!@z3(yp3ffy]3:*3_f;a!",
    "tYss8*<GoX3;a![t5k|3(;a3[%h=!g03^,h=5!<GoX3]Rh=3[d!<GoX3|d!,oX"]),
  (0x107B2, ["0vh$%(#D2mn@q!@z2<Kmn@q!@z2dQf92h8f92s6f92bCf92<Gf9!<GoX2%=G!g0"]),
  (0x10800, ["0gl[7aI2i/2ow2yh2_^2pw"]),
  (0x10808, ["0gl[7qA"]),
  (0x1080A, [
    "0gl[7qN2qt2rH2ra2r:2r,2se2s#2tR2tf2uC2u;2vL2ve2v|2wW2wx2xU2xv2yA2zi2.I2.s2:K2:=2;c2;<2<R2<",
    "t2<(2=I2=s2>~2?y2@<2[e2[*2]^2^12_52~E2~32~j2~w"]),
  (0x10837, ["0gl[7~%2~("]),
  (0x1083C, ["0gl[7/B"]),
  (0x1083F, ["0gl[7/a0pEbl$a]3dF3mf3g;3no3~X3/L3n_3]W3#x3q83sT3u%3yL3=03cH3.I3=M3;N3<C3>h3[/"]),
  (0x10857, [
    "0pEbl=x)2yHy/3_z3]:3]K3_q3y/oi4]y3]K]y0PALMYRENE $a]2dF2mf2g;2no2~X2/L2n_2]W2#x2q82sT2u%2k",
    "=yL2yL2=02cH2.I2=M2;N2<C2>h2[/1snk*1<dk*1yHy/2_z2]:2l42k/2]K2_q0w0$k=a]2a]2k=dF2dF2mf2g;2k",
    "=no2no2~X2/L2n_2]W2k=#x2#x2k=q82q82k=sT2sT2k=u%2u%2k=yL2yL2=02cH2.I2=M2;N2<C2k=>h2>h2[/"]),
  (0x108A7, ["0w0yHy/2_z2]:2l41CRUCIFORM yHl41yHk/2]K2_q2y/oi"]),
  (0x108E0, ["0nl$a]2dF2mf2DALETH-RESH 2no2~X2/M2n_2]W2#x2q82sT2u%2yL2=02cI2.I2=M2;N"]),
  (0x108F4, ["0nl$>h2[/"]),
  (0x108FB, [
    "0nlyHy/2k/2]K2_q2y/oi0.o$ALF 2dD2GAML 2DELT 2no2~S2ZAI 2n]2]T2#w2qW2LAMD 2u%2yL2SEMK 2av2.",
    "I2=L2;L2ROSH 2>h2[~1yHy/2]K2_q2y/oi2_z2]:"]),
  (0x1091F, [
    "0.o~>=!0ty$aI2cL2lx2gp2i/2|d2ow2#D2qM2r*2t:2wT2yh2;a2@S2[d2_^2k42:*2=G2_P2bH2jk2tx2xs2eR"]),
  (0x1093F, ["0ty^]u8"]),
  (0x10980, [
    "0vAHIEROGLYPHIC $aI3i/3ow3yh3#F3~E3cQ3BA-2 3zi3uC3wW3NA-2 3wx3NE-2 3;c3;d3r,3q|3n#3=I3SA-2",
    " 3=s3qN3:+3[e3[f3[*3TE-2 3^13gq2[8VIDJ 3VIDJ-2 1g5$aI3i/3ow3yh3#F3~E3cQ3zi3uC3wW3wx3;c3r,3",
    "q|3n#3=I3bo=I3=s3qN3:+3[e3[*3^13gq"]),
  (0x109BC, ["0vAg5l8j9_m3y/nT2tWRMT 3IMN 2yHy/3_z3]:3l43k/3?Y3=+3jU3x83]K3_q3]q3l03ky3?43>A"]),
  (0x109D2, [
    "0vAg5yHy/oi3_zoi3]:oi3l4oi3k/oi3?Yoi3=+oi3jUoi3x8oi3y/]y3_z]y3]:]y3l4]y3k/]y3?Y]y3=+]y3jU]",
    "y3x8]y3]K]y3_q]y3]q]y3l0]y3ky]y3?4]y3>A]y3jZ]y3xa]y3y/oi]y3_zoi]y3]:oi]y3l4oi]y3k/oi]y3?Yo",
    "i]y3=+oi]y3jUoi]y3x8oi]y2l8y/TWELFTH 3_z_m3]:_m3l4_m3k/_m3?Y_m3=+_m3jU_m3x8_m3]K_m0q($aI1|",
    "))ow3_^3|#;a"]),
  (0x10A05, ["0q(|))i/3yh"]),
  (0x10A0C, ["0q(|)sxu81)i1<kc&2b12|]1$qN2q|2ly2m0"]),
  (0x10A15, ["0q($eT2e<2pw"]),
  (0x10A19, [
    "0q($yZ2_Q2_W2hC2hK2xt2[e2]32gq2hj2wW2zi2.f2cQ2dI2uC2#F2;c2r,2|e2>F2@T2=I2/B2nM2rX2TTTHA 2_",
    "32VHA "]),
  (0x10A38, ["0q()cgaZ2CAUDA 2iXc&"]),
  (0x10A3F, ["0q(|[1h:y/2_z2]:2l41yH]K2_q2y/oi3]y1l8y/nT"]),
  (0x10A50, ["0q(:[iX2%fX2fX2gBcg2MANGALAM 2t62g>2i1g>2s,"]),
  (0x10A60, [
    "0y=?/bh$no4sT4n_4u%4;N4~X4>h4<C4dF4[/4=c4q84yL4KHETH 4=M4=04ki4a@4cI4DHADHE 4mf4g;4GHAYN 4",
    "]W4/M4DHALETH 4#x4THAW 4THETH 3yHy/4ky3yKpK1x;bh$n:4sP4nP4u~4;B4~X4ES-2 4;!4c#4]C4ES-1 4qW",
    "4xz4q#4=K4ES-3 4km4a@4av4gt4GEEM 4gy4m34[r4/G4]64#44]b4/F3yHy/4]K4_q"]),
  (0x10AC0, [
    "0u1$a]2dF2dL2mf2GHIMEL 2g;2no2~X1)_$1$/L2ZHAYIN 2JAYIN 2JHAYIN 2n_2]W2#x2q82XAPH 2q%2sT2DH",
    "AMEDH 2THAMEDH 2u%2yL2=02cH2AAYIN 2.I2ki2=M2;N2XOPH 2QHOPH 2<C2>h2SSHIN 2[/1aXu8aZ3c&"]),
  (0x10AEB, ["0u1yHy/2k/2]K2_q2y/oi1:[@c2k*2i1iX~uiX2iX~uiX32_ziZ2s*k;"]),
  (0x10B00, [
    "0b+$aI2aR2b22AAO 2bH2aT2ad2ag2i/2jF2yh2y(2ow2o)2_^2|a2qt2~(2#C2XVE 2mF2mU2m52er2p>2[*2]92h",
    "R2hk2_T2.I2ki2c<2dK2w)2NGYE 2NGVE 2wx2y22NNE 2u;2HME 2YYE 2#12|n2;<2se2=s2/N2>Z2/W2SHYE 2S",
    "SHE 2no"]),
  (0x10B39, [
    "0b+aXu80^H_ziZz2y/iX:[0%_ziZz2y/iX:[0s1_ziZz2y/iX:[1y/iXz2_ziZ:[1_z<lz2y/<k:[1y/<kz2_z<l:[",
    "0pSz*$a]3dF3mf3g;3no3~X3/L3n_3]W3#x3q83sT3u%3yL3=03cH3.I3=M3;N3<C3>h3[/"]),
  (0x10B58, [
    "0pSz*yHy/3_z3]:3l43]K3_q3y/oi4]y1zr$a]3dF3mf3g;3no3~Y3/L3n_3]W3#x3q83sT3u&3yL3=03.I3=M3>h3",
    "[/"]),
  (0x10B78, [
    "0pSzryHy/3_z3]:3l43]K3_q3y/oi4]y0:.zr$a]3dF3mf3g;3no3~Y3/L3n_3#x3q83sT3u&3yL3=03.I3=M3>h3[",
    "/"]),
  (0x10B99, ["0:.zr=xu82_f=xu82l4iZ!gG5iX"]),
  (0x10BA9, ["0:.zryHy/3_z3]:3l43]K3_q3y/oi"]),
  (0x10C00, [
    "0y=TURKIC $zNaI3#7aI4ad3zNow3#7ow4i/3zNyh4yp3#7yp3zNaV3#7aV3zNae3#7ae3zNar3#7ar3zNah3#7ah3",
    "zNa93#7a93zNAED 4k03#7k03zNcE3#7cE3zNao3#7ao3zNaj3#7aj3zNyr3#7yr3zNa;3#7a;3zNAEL 4ELT 4je4",
    "bH4al3#7al3zNjt3#7jt3zNjl3#7jl3zNjz3#7jz4bL3zNjq3#7AENG 3zNj:4y+4o:4jB3#7jB3zNbf3#7bf3zNpa",
    "3#7pa3zNzG3#7zG3zNbg3#7bg3zNAER 4b;4AES 4b>3#7b>3zNj&3#7j&3zNb#3#7b#3zNan3#7an3zNzS4BASH "]),
  (0x10C80, [
    "0y=ok($aI4aR4jA4bF4jB4jl4jD4jE4*4i/4fei/4jF4jG4jH4jJ4jM4ow4o)4j14j24az4|R4j44jd4je4jk4jz4y",
    "h4y(4x5yp4<*yp4yq4j:4jh4j_4>uj_4j$4j*4j+4jt4kE4jC4_^4|a4x5_&4<*_&4kI4k04k34ju)4|7"]),
  (0x10CC0, [
    "0y=ok%$aI4aR4jA4bF4jB4jl4jD4jE4*4i/4fei/4jF4jG4jH4jJ4jM4ow4o)4j14j24az4|R4j44jd4je4jk4jz4y",
    "h4y(4x5yp4<*yp4yq4j:4jh4j_4>uj_4j$4j*4j+4jt4kE4jC4_^4|a4x5_&4<*_&4kI4k04k34ju)4|7"]),
  (0x10CFA, [
    "0y=okyHy/3k/3]K3ky3y/oi4]y0ne<y$aI3cQ3zi3[e3_Q3pw3eT3nM3q|3k53gq3hC3;c3</3/B3=I3>F3qN3ly3r",
    ",3uC3wW3~E3rM~E3#F3rM#F3w%3yZ3|e2|)aI3ow3_^3i/3yh2u8SAKIN 3wWKHONNA 2)HARBAHAY 3TAHALA 3TA",
    "NA 3TASSI "]),
  (0x10D30, ["0ne<yh:/S3y/3_z3]:3l43k/3?Y3=+3jU3x8"]),
  (0x10E60, [
    "0RUMI h:y/2_z2]:2l42k/2?Y2=+2jU2x81yH]K2_q2]q2l02ky2?42>A2jZ2xa2y/oi2_zoi2]:oi2l4oi2k/oi2?",
    "Yoi2=+oi2jUoi2x8oi1l8y/nT3;U3]n2_z]o"]),
  (0x10E80, [
    "0#h$ELIF 2c<2.I2.j2]92=s2fV2CHIM 2CHHIM 2n#2~%2gy2/H2;c2<P2/B2pw2?I2>h2=K2gt2[e2/N2kZ2XHEY",
    "N 2k52|e3a,&2;B2qW2KHAF 2l=2sP2v42yL2|F2~X2zb2kK2HAY 2#:2j+"]),
  (0x10EAB, ["0#hfsnXu82uGu81ouu8"]),
  (0x10EB0, ["0#h$sP!iXaZ2#:!f2aZ"]),
  (0x10F00, [
    "0y=?<$a]3k=a]3dF3k=dF3mf3no3k=no3~X3/L3n_3#x3q83sT3u%3yL3k=yL5!|v[t3=03cH3a,cH3.I3=M3k==M5",
    "!|v[t3RESH-AYIN-DALETH 3>h3[/3k=[/5!|v[t2yHy/3_z3]:3l43k/3]K3_q3]q3y/oi2l8y/nT2s$AYIN-DALE",
    "TH "]),
  (0x10F30, [
    "0?<$a]2dF2mf2no2~X2/L2n_2#x2q82sT2u%2yL2=02cH2.I2=M2RESH-AYIN 2>h2[/2FETH 2s;1pH>h1fsiXc&2",
    "_ziZc&2iXaZ2_ziZaZ2g6aZ3c&2oXaZ3c&2tYoXc&2<Cc&2@zc&1yHy/2]K2_q2y/oi1:[_z|vcl5!iZ2fX!iX2_zf",
    "Z!iZ2nTfX!iX"]),
  (0x10F70, [
    "0y=UYGHUR $a]3dF3GIMEL-HETH 3~X3/L3k=n_3#x3q83sT3u%3yL3=03.I3=M3<C3>h3[/3s;2fsiXaZ4c&3_ziZ",
    "aZ5c&2:[cg3_zcl4iZ3l4iZ"]),
  (0x10FB0, [
    "0CHORASMIAN $a]2%a]2dF2mf2g;2no2~X2CURLED ~X2/L2n_2#x2q82sT2u%2yL2=02cH2.I2<C2>h2[/1yHy/2_",
    "z2]:2l42]K2_q2y/oi"]),
  (0x10FE0, [
    "0ELYMAIC $a]2dF2mf2g;2no2~X2/L2n_2]W2#x2q82sT2u%2yL2=02cH2.I2=M2;N2<C2>h2[/1s$ZAYIN-YODH "]),
  (0x11000, [
    "0d=)e72b12|]2p#2|W1$aI2aR2ow2o)2_^2|a2|#;a3<#3r*3tO2i/2au2yh2b%2qN2q|2ly2m02w%2eT2e<2pw2p^",
    "2yZ2_Q2_W2hC2hK2xt2[e2]32gq2hj2wW2zi2.f2cQ2dI2uC2#F2;c2r,2|e2>F2@T2=I2nM2tP2y=[;tQ4</4xu1|",
    "))aR3BHATTIPROLU aR3ow3o)3_^3|a3|#;a4<#4r*4tO3i/3au3yh3b%1|[1g>1i1g>1:[iX2i1iX2s*2gBcg2t6"]),
  (0x11052, [
    "0d=yHy/2_z2]:2l42k/2?Y2=+2jU2x82]K2_q2]q2l02ky2?42>A2jZ2xa2y/oi3]y1h:/S2y/2_z2]:2l42k/2?Y2",
    "=+2jU2x81)y=[;|[1$y=[;>ui/5yh1|))y=[;>ui/6yh1$y=[;tP"]),
  (0x1107F, [
    "0d=yHqD0qZ)e72b12|]1$aI2aR2ow2o)2_^2|a2i/2au2yh2b%2qN2q|2ly2m02w%2eT2e<2pw2p^2yZ2_Q2_W2hC2",
    "hI2hK2<P2xt2[e2]32gq2hj2wW2zi2.f2cQ2dI2uC2#F2;c2r,2|e2>F2@T2=I2nM1|))aR3ow3o)3_^3|a3i/3au3",
    "yh3b%1)|[2yF1aX)1ENUMERATION )1yH)1=xu81i1=xu81g>1i1g>1|))|#;a"]),
  (0x110CD, ["0qZyH)aZ"]),
  (0x110D0, [
    "0?]?@$=Q3[r3BAH 3CAH 3DAH 3l>3uN3NGAH 3LAH 3w53|g3PAH 3#K3RAH 3nP3qX3JAH 3NYAH 3as3EEH 3o(",
    "3_+3yv3jM3uI"]),
  (0x110F0, ["0?]?@h:/S3y/3_z3]:3l43k/3?Y3=+3jU3x8"]),
  (0x11100, [
    "0e?)e72b12|]1$aR2ow2_^2i/2qP2q~2l.2m12w&2eU2e=2px2JHAA 2y02_R2_X2hD2hL2NNAA 2[h2]42gr2DHAA",
    " 2wY2zj2.g2cR2BHAA 2uD2YYAA 2#H2;e2sA2~F2=J2nN1|))aI3ow3o)3_^3|a3i/3au3yh3b%3yx1yhu81b%u81",
    "|[1MAAYYAA "]),
  (0x11136, ["0e?h:/S2y/2_z2]:2l42k/2?Y2=+2jU2x81=xu81g>1i1g>1;Yu81$s_1|))aR3jS1$|f"]),
  (0x11150, [
    "0MAHAJANI $aI2ow2_^2i/2yh2qN2q|2ly2m02eT2e<2pw2p^2yZ2_Q2_W2hC2hK2xt2[e2]32gq2hj2wW2zi2.f2c",
    "Q2dI2uC2;c2r,2|e2=I2nM2</1)yF1aX)1=xu81s$>y"]),
  (0x11180, [
    "0SHARADA )e72b12|]1$aI2aR2ow2o)2_^2|a2|#;a3<#3r*3tO2i/2au2yh2b%2qN2q|2ly2m02w%2eT2e<2pw2p^",
    "2yZ2_Q2_W2hC2hK2xt2[e2]32gq2hj2wW2zi2.f2cQ2dI2uC2#F2;c2r,2tP2|e2>F2@T2=I2nM1|))aR3ow3o)3_^",
    "3|a3|#;a4<#4r*4tO3i/3au3yh3b%1)|[2b*2p#2|W1y[1g>1i1g>1aX)1=!1=4u81)yF1|)vhu81EXTRA >u|)u81",
    "SUTRA u81|)):ri/1)p5e71h:/S2y/2_z2]:2l42k/2?Y2=+2jU2x81EKAM 1)>/1ns1CONTINUATION )1=xu92ua"]),
  (0x111E1, ["0?Lboh:y/3_z3]:3l43k/3?Y3=+3jU3x82yH]K3_q3]q3l03ky3?43>A3jZ3xa3y/oi4]y"]),
  (0x11200, ["0rE$aI2aR2ow2_^2i/2au2yh2b%2qN2q|2ly2mT2m02w%2eT2e<2pw2p$"]),
  (0x11213, [
    "0rE$yZ2_Q2_W2hC2hK2xt2[e2]32gq2hH2hj2wW2zi2.f2cQ2cw2dI2uC2#F2;c2r,2|e2=I2nM2tP1|))aR3ow3o)",
    "3_^3i/3au3yh3b%1)b12|[2yF2>K1g>1i1g>1~>=!1=xu81i1=xu81aX)1)@*"]),
  (0x11280, ["0v%$aI2ow2_^2i/2qN2q|2ly"]),
  (0x11288, ["0v%$m0"]),
  (0x1128A, ["0v%$eT2e<2pw2p$"]),
  (0x1128F, ["0v%$yZ2_Q2_W2hC2hH2hK2xt2[e2]32gq2hj2wW2zi2.f2cQ"]),
  (0x1129F, ["0v%$dI2uC2#F2;c2r,2|e2=I2nM2</2<P1=xu8"]),
  (0x112B0, [
    "0rG$aI2aR2ow2o)2_^2|a2i/2au2yh2b%2qN2q|2ly2mT2m02w%2eT2e<2pw2p$2p^2yZ2_Q2_W2hC2hH2</2hK2xt",
    "2[e2]32gq2hj2wW2zi2.f2cQ2cw2dI2uC2#F2;c2r,2|e2>F2=I2nM1)b11|))aR3ow3o)3_^3|a3i/3au3yh3b%1)",
    "yF2|["]),
  (0x112F0, ["0rGh:/S2y/2_z2]:2l42k/2?Y2=+2jU2x8"]),
  (0x11300, ["0mz)fsb1aZ2e72b12|]"]),
  (0x11305, ["0mz$aI2aR2ow2o)2_^2|a2|#;a3r*"]),
  (0x1130F, ["0mz$jF2au"]),
  (0x11313, ["0mz$y(2b%2qN2q|2ly2m02w%2eT2e<2pw2p^2yZ2_Q2_W2hC2hK2xt2[e2]32gq2hj2wW"]),
  (0x1132A, ["0mz$zi2.f2cQ2dI2uC2#F2;c"]),
  (0x11332, ["0mz$r,2tP"]),
  (0x11335, ["0mz$|e2>F2@T2=I2nM"]),
  (0x1133B, ["0fsdUc&0mz)yF2b*1|))aR3ow3o)3_^3|a3|#;a4<#"]),
  (0x11347, ["0mz|))jF3au"]),
  (0x1134B, ["0mz|))y(3b%1)|["]),
  (0x11350, ["0mzy["]),
  (0x11357, ["0mzb%sxu8"]),
  (0x1135D, ["0mz):H1$|pb13i1b12|#<#3tO1|))|#r*4tO"]),
  (0x11366, ["0fsmzh:/S3y/3_z3]:3l43k/3?Y"]),
  (0x11370, ["0fsmz$aI3qN3wW3|.3zi"]),
  (0x11400, [
    "0w#$aI2aR2ow2o)2_^2|a2|#;a3<#3r*3tO2i/2au2yh2b%2qN2q|2ly2m02w%2xI2eT2e<2pw2p^2yZ2y62_Q2_W2",
    "hC2hK2xt2[e2]32gq2hj2wW2xT2zi2.f2cQ2dI2uC2vK2#F2;c2<P2r,2s^2~E2>F2@T2=I2nM1|))aR3ow3o)3_^3",
    "|a3|#;a4<#4r*4tO3i/3au3yh3b%1)|[2e72b12|]2yF2b*2k=b11y[1SIDDHI 1g>1i1g>1ft1l~k;1aX)1h:/S2y",
    "/2_z2]:2l42k/2?Y2=+2jU2x81i1ft1:Au8"]),
  (0x1145D, ["0w#pT)1=4u81$|pb11)p#2|W"]),
  (0x11480, [
    "0^KbQ1$aI2aR2ow2o)2_^2|a2|#;a3<#3r*3tO2i/2au2yh2b%2qN2q|2ly2m02w%2eT2e<2pw2p^2yZ2_Q2_W2hC2",
    "hK2xt2[e2]32gq2hj2wW2zi2.f2cQ2dI2uC2#F2;c2r,2|e2>F2@T2=I2nM1|))aR3ow3o)3_^3|a3|#;a4<#4r*4t",
    "O3i/3>ui/3au3yh3>uyh3b%1)e72b12|]2|[2yF2b*1GVANG 1aX)1y["]),
  (0x114D0, ["0^Kh:/S2y/2_z2]:2l42k/2?Y2=+2jU2x8"]),
  (0x11580, [
    "0>/$aI2aR2ow2o)2_^2|a2|#;a3<#3r*3tO2i/2au2yh2b%2qN2q|2ly2m02w%2eT2e<2pw2p^2yZ2_Q2_W2hC2hK2",
    "xt2[e2]32gq2hj2wW2zi2.f2cQ2dI2uC2#F2;c2r,2|e2>F2@T2=I2nM1|))aR3ow3o)3_^3|a3|#;a4<#"]),
  (0x115B8, [
    "0>/|))i/3au3yh3b%1)e72b12|]2|[2yF2>/1g>1i1g>1=!iX2cg1;,u92ua2ub1jpys]1u81=xu8!^_*__ORNAMEN",
    "TS 6i0gC4;.*i0gC7i1gC7^~gC3i1<k5!;.3!i1gC4^~gC4;TgC4SEPTUPLE gC4fZ*;.6_zjo6l4jo1$THREE-CIR",
    "CLE a,ow2_.a,ow4o)2a,_^1|))a,_^4|a"]),
  (0x11600, [
    "0vg$aI2aR2ow2o)2_^2|a2|#;a3<#3r*3tO2i/2au2yh2b%2qN2q|2ly2m02w%2eT2e<2pw2p^2yZ2_Q2_W2hC2hK2",
    "xt2[e2]32gq2hj2wW2zi2.f2cQ2dI2uC2#F2;c2r,2|e2>F2@T2=I2nM2tP1|))aR3ow3o)3_^3|a3|#;a4<#4r*4t",
    "O3i/3au3yh3b%1)b12|]2|[2ARDHACANDRA 1g>1i1g>1aX)1)HUVA "]),
  (0x11650, ["0vgh:/S2y/2_z2]:2l42k/2?Y2=+2jU2x8"]),
  (0x11660, [
    "0vkdX!zO1<@dX1i1dX!zO1^~dX!zO1dX!i1zO1<@dX!zO4i1zO1p5dX3!i1zO1[3dX3!zO4i1zO1_f[3dX!i1zO"]),
  (0x11680, [
    "0[w$aI2aR2ow2o)2_^2|a2i/2au2yh2b%2qN2q|2ly2m02w%2eT2e<2pw2p^2yZ2_Q2_W2hC2hK2xt2[e2]32gq2hj",
    "2wW2zi2.f2cQ2dI2uC2#F2;c2r,2|e2>F2=I2nM2</1)b12|]1|))aR3ow3o)3_^3|a3i/3au3yh3b%1)|[2yF1$bo",
    "q|1aX)"]),
  (0x116C0, ["0[wh:/S2y/2_z2]:2l42k/2?Y2=+2jU2x8"]),
  (0x11700, [
    "0at$qN2q|2w%2wW2[e2a,[e2zi2.f2cQ2uC2pw2e<2]32;c2r,2=I2yZ2nM2aI2gq2hj2ly2a,ly2m02dI2p^2a,cQ"]),
  (0x1171D, ["0atf=)u@r,4;c4LIGATING ;c1|))aI3aR3ow3o)3_^3|a3i/3b,3yh3au3bD1)KILLER "]),
  (0x11730, [
    "0ath:/S2y/2_z2]:2l42k/2?Y2=+2jU2x81yH]K2_q1)%=x2=x2RULAI 1[8|.1$eT2_Q2_W2hC2hK2xt2tP"]),
  (0x11800, [
    "0DOGRA $aI2aR2ow2o)2_^2|a2i/2au2yh2b%2qN2q|2ly2m02w%2eT2e<2pw2p^2yZ2_Q2_W2hC2hK2xt2[e2]32g",
    "q2hj2wW2zi2.f2cQ2dI2uC2#F2;c2r,2|e2>F2@T2=I2nM2</1|))aR3ow3o)3_^3|a3|#;a4<#3i/3au3yh3b%1)b",
    "12|]2|[2yF1aX)"]),
  (0x118A0, [
    "0~Nf3($w&4aI4~j4#=4#F4#s4o)4|a4i/4yh4bL4ly4ra4jz4#[4_!4js4yo4_T4yM4gq4b#4bD4d&4:=4oH4oT4o3",
    "4nf4@74>,4||2%$w&4aI4~j4#=4#F4#s4o)4|a4i/4yh4bL4ly4ra4jz4#[4_!4js4yo4_T4yM4gq4b#4bD4d&4:=4",
    "oH4oT4o34nf4@74>,4||2h:/S3y/3_z3]:3l43k/3?Y3=+3jU3x82yH]K3_q3]q3l03ky3?43>A3jZ3xa"]),
  (0x118FF, ["0~Nf3y[0h(a:$aI3aR3ow3o)3_^3|a3i/"]),
  (0x11909, ["0h(a:$yh"]),
  (0x1190C, ["0h(a:$qN3q|3ly3m03w%3eT3e<3pw"]),
  (0x11915, ["0h(a:$yZ3_Q"]),
  (0x11918, [
    "0h(a:$hC3hK3xt3[e3]33gq3hj3wW3zi3.f3cQ3dI3uC3#F3#,3;c3r,3|e3>F3@T3=I3nM3tP3/B2|))aR4ow4o)4",
    "_^4|a4i/"]),
  (0x11937, ["0h(a:|))au4yh"]),
  (0x1193B, ["0h(a:)b13e73nS2|[2:kwe)2u@#F2pQ;c2u@;c2)yF2i1g>2l~k;2jpys]1u8"]),
  (0x11950, ["0h(a:h:/S3y/3_z3]:3l43k/3?Y3=+3jU3x8"]),
  (0x119A0, ["0wa$aI2aR2ow2o)2_^2|a2|#;a3<#"]),
  (0x119AA, [
    "0wa$i/2au2yh2b%2qN2q|2ly2m02w%2eT2e<2pw2p^2yZ2_Q2_W2hC2hK2xt2[e2]32gq2hj2wW2zi2.f2cQ2dI2uC",
    "2#F2;c2r,2|e2>F2@T2=I2nM2tP2</1|))aR3ow3o)3_^3|a3|#;a4<#"]),
  (0x119DA, ["0wa|))i/3au3yh3b%1)b12|]2|[2b*2>/1ns1|)):ri/"]),
  (0x11A00, [
    "0ZANABAZAR @K$aI2|))ow4_&4_^4i/4yp4yh4au4b%4<Kow3sxu82$qN3q|3ly3m03w%3eT3e<3pw3yZ3_Q3_W3hC",
    "3hK3xt3[e3]33gq3hj3wW3zi3.f3cQ3dI3uC3_A3_F3i;3i?3/U3/B3aA3#F3;c3r,3|e3>F3@T3=I3nM3r.2k=f=u",
    "82)|[3e74!zO3e6!zO3b13|]2fm$;c2CLUSTER-FINAL $#F4;c4r,4|e2pQnpu82fgnpu82u8_H3>J3i1>J3tY_H2",
    "pQi3npu82fgi3npu82@@"]),
  (0x11A50, [
    "0SOYOMBO $aI1|))ow3_&3_^3i/3yh3yp3au3b%3|#;a4r*2sxu81$qN2q|2ly2m02w%2eT2e<2pw2p^2yZ2_Q2_W2",
    "hC2hK2xt2[e2]32gq2hj2wW2zi2.f2cQ2dI2uC2_A2_F2i;2/U2/B2aA2#F2;c2r,2|e2>F2@T2=I2nM2r.1)p#2|W",
    "1fm$;c3r,3>F3=I1k=f=)lx4qM4w$4gp4wT4cL4t:4;a4r*4>E4=G4aA1)b12|]1mIu81@@1u8_H2>J2i1>J2:H1np",
    "u8!vv*[B*^~k%8k%71TERMINAL u92ua"]),
  (0x11AB0, [
    "0e3[6NATTILIK n$3n+3oN3oW3nM3nN3>y3SHRII 3SHRO 3SHROO 3SHRA 3SHRAA 2SPE 2SPI 2SPO 2SPA 0PA",
    "U CIN nm$zi4qN4r,4uC4gq4/B4|e4w%4nM4ly4q|4=I4cQ4eT4[e4]34wW4.f4;c4k54e<4aI4i/4ow4yh4_^4_~4",
    "ox4k=zh5qM5[d5t:5wT5r*5~D5w$5#D3<n^5tY53=4mn@q3<n^5tYk=5k=3=4mn@qk=4^5tY55tYk=5k=3vP^53mn@",
    "q|k3vP^5tYk=5k=3ta^5tY53mn@q3ta^5tYk=5k=3mn@qk="]),
  (0x11C00, ["0dJ$aI2aR2ow2o)2_^2|a2|#;a3<#3r*"]),
  (0x11C0A, [
    "0dJ$i/2au2yh2b%2qN2q|2ly2m02w%2eT2e<2pw2p^2yZ2_Q2_W2hC2hK2xt2[e2]32gq2hj2wW2zi2.f2cQ2dI2uC",
    "2#F2;c2r,2|e2>F2@T2=I2nM1|))aR3ow3o)3_^3|a3|#;a4<#4r*"]),
  (0x11C38, ["0dJ|))i/3au3yh3b%1)e72b12|]2|[2b*1g>1i1g>1~>=!1l~FILLER-1 2FILLER-2 "]),
  (0x11C50, [
    "0dJh:/S2y/2_z2]:2l42k/2?Y2=+2jU2x81yHy/2_z2]:2l42k/2?Y2=+2jU2x82]K2_q2]q2l02ky2?42>A2jZ2xa",
    "1oj|Pu8"]),
  (0x11C70, [
    "0u7npu81u8>J1$qN2q|2ly2w%2eT2e<2pw2yZ2[e2]32gq2wW2zi2.f2cQ2uC2_A2_F2i;2~E2/U2/B2aA2#F2;c2r",
    ",2>F2=I2nM2aI"]),
  (0x11C92, ["0u7@?$qN3q|3ly3w%3eT3e<3pw3yZ3[e3]33gq3wW3zi3.f3cQ3uC3_A3_F3i;3~E3/U3/B"]),
  (0x11CA9, ["0u7@?$#F3;c3r,3>F3=I3nM3aI1|))aR3ow3_^3i/3yh1)b12e7"]),
  (0x11D00, ["0uems$aI3aR3ow3o)3_^3|a3i/"]),
  (0x11D08, ["0uems$au3yh"]),
  (0x11D0B, [
    "0uems$b%3qN3q|3ly3m03w%3eT3e<3pw3p^3yZ3_Q3_W3hC3hK3xt3[e3]33gq3hj3wW3zi3.f3cQ3dI3uC3#F3;c3",
    "r,3|e3>F3@T3=I3nM3tP3r.3p,3^t2|))aR4ow4o)4_^4|a4|#;a"]),
  (0x11D3A, ["0uems|))i/"]),
  (0x11D3C, ["0uems|))au4yh"]),
  (0x11D3F, ["0uems|))b%2)b13|]3yF3e63nS2|[2REPHA 2RA-KARA "]),
  (0x11D50, ["0uemsh:/S3y/3_z3]:3l43k/3?Y3=+3jU3x8"]),
  (0x11D60, ["0m+ms$aI3aR3ow3o)3_^3|a"]),
  (0x11D67, ["0m+ms$jF3au"]),
  (0x11D6A, [
    "0m+ms$y(3b%3#F3|e3cQ3dI3uC3qN3q|3[e3]33r,3ly3m03gq3hj3wW3eT3e<3_Q3_W3tP3pw3p^3hC3hK3w%3zi3",
    ".f3nM3;c3=I2|))aR4ow4o)4_^4|a"]),
  (0x11D90, ["0m+ms|))jF4au"]),
  (0x11D93, ["0m+ms|))y(4b%2)b13|]2|[2y["]),
  (0x11DA0, ["0m+msh:/S3y/3_z3]:3l43k/3?Y3=+3jU3x8"]),
  (0x11EE0, [
    "0MAKASAR $qN2ly2w%2zi2cQ2uC2[e2gq2wW2eT2pw2yZ2#F2;c2r,2|e2=I2aI1ANGKA 1|))ow3_^3i/3yh1PASS",
    "IMBANG 1jpys=x"]),
  (0x11FB0, ["0tH$YHA "]),
  (0x11FC0, [
    "0[;l8y/THREE-HUNDRED-AND-TWENTIETH 3y!3EIGHTIETH 3?53lZ3]s2]:jY3SIXTY-FOURTHS 2y/_o3SIXTEE",
    "NTH-1 3SIXTEENTH-2 3]P3jW2]:_p3?12y/kw3;U3HALF-1 3HALF-2 2]:;V2DOWNSCALING k9KIIZH 1)NEL 2",
    "CEVITU 2AAZHAAKKU 2UZHAKKU 2MUUVUZHAKKU 2KURUNI 2PATHAKKU 2MUKKURUNI 2KAACU 2PANAM 2:X2VAR",
    "AAKAN 2PAARAM 2KUZHI 2VELI 1WET gU)1imgU)1LAND )1=Uz;)1TRADITIONAL gA)2yH)1g4)1*yo)1SPENT ",
    ")1^p)1pF:1)1STARTING lg)1)MUTHALIYA 2VAKAIYARAA "]),
  (0x11FFF, [
    "0[;:[jpys]10gW)aI3^GaI4cY4l_]Q4nM4o&4sGm,4v,4=P2aP2aV3^Gb?4ism,4l?4l_]Q4nM4o&m,4pC4sF4>64_",
    "^:G_^:G_^3m,2aW3^Gc34l_]Q4u;:Gjk4>G4[v2a92az3^Gj/4>l:Gmh2a;3^Ga;4h?4mh4nM4qU4rH4>Z4|92ALAN",
    " 2a]2bE3^G>Z2bH3z2bH3]:^G3:Gw4zDbH:Gw45@L2bT2APIN 2ARAD 3^Gr?2ARKAB 2ASAL2 2b>3/4]Q3qS]Q3z",
    "2b>_7z2_7_7z2_7z?5z2b>7gMb>z2b>z2b>2b?2b[2cQ2cY2BAG3 2c12c23z2c22c32cg2BARA2 2dN3^GaI4l/4o",
    "&m,2d&3z2d&aV5|I3gMd&2eD3z2eD2eF2BUR2 2gq2gu3rP^GaI:Guf5bE5c35dN5ly6:Guf5mb5mg5m%5nM5pb6:G",
    "tf5q05r,5tf6:Gug5tn5wx5z?:Gz?5>~5[v5_|:Gmg5|92DAM 2g#2g/2DARA4 2hm2hu2h>3^G>Z2h?2h[3qi_^m,",
    "h$2h$2in3z2in3m,3>72io3^Gj(2DUB2 2ip2DUGUD 2DUH 2ir2is3m,4m,2DUN4 2DUR2 2i/3^Gz?3z2i/yLz2y",
    "L2i!3^GaI:GnM:Ggq4l/4vL4=R4>Z4_^2EDIN 2EGIR 2j42jk3^Gl_5]Q4u;3gMjk3zDjk3@L2j#2j/2j(2k13^Ga",
    "I5:GsO7^GsO4bH4cY4ism,6m,4nM5m,4o&m,4qi5@L4r;4r,4sO^GsO4s#4tf4_|4_$2ly3m,2lz3^GaI:Ggq:GnM6",
    "nM6o&4aW]Q:G[j4bH4b>4b?:Gl?4cY4cg:G;c4eF5:G;c4gq4hm4h>^G>Z4io4j45:Gr,4jk5^Gl_]Q4l_]Q4l/4mb",
    "4mc5:GaI4mg:G@<4nM:Gtf:Gj(4nR5:Gr,4n$:Gs#4od4o&m,4pf:Goc:Gb>4q04qi4rI5:GsO4r;:GbH4r,4u;:Gj",
    "k4vL4yL5z2yL4zi4=R4=84>Z5:G_c4>c4@,4[v4_^4_$5:Gin3z2lz2l:3gMl:2l;3z2l;l/z2l/2l?3l;z2l;l/z2",
    "l/2GALAM 2GAM 2l^2l_3]Q3z2l_3gMl_2l/2GAR3 2GASHAN 2mQ3^Gr?2mb3^Gi/4_^3gMmb2mc3z2mc3gMmc2GI",
    "DIM 2mg3m,2GIR3 3^GaI:Go&4l_]Q4o&4tf:Go&4zi2GISAL 2mh3gMmh3^GcY4[v3]Q2m/3gMm/2m!3^Gq05^Go&",
    "m,4yL4=R:G_73m,2m%3^GaI:Gr?4r?3z2m%tj2m)2m*3^G>Z2nA2nB2GURUN 2GURUSH 2nM3]Q3m,2nR2n$3^Gb>4",
    "b?4cY4h$4l;4rK4yL4>Z4_^2oc2od3^GbH4nR4qi4tG4_$2HUL2 2ow3aI2o.2o#3z2o#eF5@L2o%2o&3hu3<R3z2o",
    "&>kz2>k_$z2_$3m,2IL 3^Gl_]Q2IL2 2pA3^G[v3gMpA3zDpA3@L2pC2pF2pb2pf2qN3^GaI4a95:Gr;4b?4cY4c3",
    "4cg4dN4j/4j(4ly4l?4l_]Q4l/5:G>G:GaI4mb4mg4mh:G=85gMmh4m/4nB4o&4pA4q04rH4rI4s#4tf4u;5:Gin6m",
    "b6[*4vL5:GyN4wx4yL4.s4<(4=I4=84>F4>Z4>c4>;4>%4@&4[]4_^4_|4_$4|H^Gzi4|94/32qO3gMqO2qR2qT2qU",
    "2KAD4 2qV3z2qV2q03^Go&m,2q23^GcY3gMq22KAM2 2KAM4 2qi3sF^G_^z2sF^G_^3z2qisF^G_^z2sF^G_^2q<2",
    "rH3^GcY4_^4_$2rI2rK2KISAL 2KISH 2rP3z2rP2r:3z2n$^Gb?r:z2n$^Gb?2r;2KU4 3|k&2KU7 2r<3m,2r=2r",
    "?3zDr?2r@2KWU318 2r,2sF3^GaI5:Ggq:GnM6l/6sO4a;4bH4b>/4]Q4cY4dN4g#4jk4ly4l/4m%5:Gm%4nM4nR4n",
    "$^GyL4o&m,4pA5:GnM6tf4rH4rK4r;4r<5:Gn$:GaI4sF4tG4tf4tm4u;5:Gjk4v,4wx4>Z:G@,4>l:Gmh:Gj/7]Q4",
    "><5:G><4@,4[o4[v4[*:GaI:G@<:GwW4_^5:GaI6_^:G_^4_|:Gb>4_$4|93@L2sG3^G>Z5:G@,3m,4z2sGm,>Z2LA",
    "HSHU 2sO3^GsO2sP3^Gr?5:G<(2s#2LIL 2LIMMU2 2tG2tf3^GcY2tg3^Ga;4cY4j(5]Q4l_]Q4n$^GcY4pA4qT4q",
    "U5:Gb>4rH4r,:Gb>4sF4u;:Gjk4wx4yA4>~:Gb>4?A:Gd&4_73]Q3gMtg3zDtg3@L3>72th2tj3z2tj3zDtj3>72tl",
    "2tm2tn3z2tn5l/z2l/2uC3^G[v3m,2MA2 2uN2u52uf2ug2u;2vB2vL2v52v|3z2v|2v$3m,2MUNSUB 2MURGU2 2v",
    ",3^GaI4r?4/B3z2v,5^GaI:GwW3gMv,2wA3^GaI5:Ghm4hm3m,2wW2wX2w43p53^G>;]Q3zDw42NAGAR 2NAM yP32",
    "w72wx3^GaI4_$3>72xU3^Gi/2NI2 2NIM 3^Gl_]Q4l/:Gl_]Q2x73^GbH4b>5:Gb>4m%4u;:Gl_]Q4wx4yL4>Z5:G",
    "aIbH6b>7:Gb>4_|:Gb>4|92NISAG 2yA2yB2yL3sG^Gl/5uf5=R6z2yLsG^G=R5|93]Q3z2yL3gMyL5sGz2sG2yN3a",
    "W^Gb[5dN5ip5m%5o&m,5qU5r,5wx5?B5_|3rP^GdN6_^2zi2zm2z;2z?2.b2.s3^GaI4aV4dN4d&4i/4ow4o.4_^4_",
    "|3gM.s2.%3^Gq24_$4/B3zD.%2;c2RAB 2<R2<(2=I2=PyP33^GaI4in4io4nM4q04r?4tn4vL4yL4=R4>c4[j4_|4",
    "_#4|F4|24|93z2=P3m,2=R3sF^Gb?2SANGA2 2=82>F2>G3^GaI4cY4mh4wx4><4_c4_^5:GaI2>H2SHAB6 2>U2>Z"]),
  (0x122BB, [
    "0gW)>Zoc3z2>Zl;z2l;l/z2l/5[jz2[jl/z2l/2SHEG9 2SHEN 2>62SHESH2 2SHESHLAM 2>c3^GaI4pA2>f3^Ga",
    "I4c24eD4h[4l/4o&5m,4r@4tm4v$4=R2SHINIG 2>k3]Q3z2>keFz2eF2>l2>;3z2p5>;2><2SHUBUR 2>~3m,2>%2",
    ">&3z2>&><2?A2?B2@<3z2@<2SUD 2SUD2 2@&2@,2SUMASH 2[J2SUR9 2[e3b_3^Gn$4vL3m,2[j3z2[jxUz2xUh$",
    "z2h$3@L2[o3^GdN4m%4>Z4>;4_74_$2[v2[]2[*3m,2]^3]Q2^B2^J3^G[v3z2^J5l;z2l;l/z2l/2_52_72_82_92",
    "_c3z2_c/Bz2/B2_^3m%3_^_^3z2_^ziz2zil/z2l/5[Jz2[J5_^<Kz2_^<K2_|2_#2_$3r@3^GcY4vL4_^:G_^:G_^",
    "9m,3m,3>74^GcY2UDUG 2|F3^GsF4u;:Ggq4>G4_^2UMBIN 2|H3^Gqi4zi2|I3m,2|23gM|23>72|33^GaI:GnM6w",
    "W4a;4nM4yL4_|5:Gb>6dN2UR4 2URI 2URI3 2|53^GaI4b[4cg4ir4ly4l?4l_]Q4l/4m/4nM4o&4pA4pf4rH4tn4",
    "v54zi4>Z4>&4_54_^:Gm%4_$4|62|63^G_^2|93^GaI4r:4r?4[v2USHX 2USH2 2USHUMX 2UTUKI 2UZ3 3^Gqi2",
    "UZU 2/B3]Q3@L^Gr?2ZAG 2ZAMX 2ZE2 2/33z2/32ZI3 2ZIB 3qS]Q2ZIG 2/62/d2/e3^GaI2ZUBUR 2ZUM 2q6",
    "j52aV^GyL2aW^GaI2bE^GKUG 2gurP^G_|:Guf2DAG3 2h$:G>;2io^G>Z2k1^Gm%4>Z2lz^GbH:Gq0:GaI4b?2GE2",
    "2 2GIG 2HUSH 2qN^GbT4ASH3 4mh4m%4n$^Gb?4tn4zi4SHUL 4_54|32sF^Gmb2tg>7^GcY3^Gj(:GsO4>;2vC2w",
    "A^G/B2NA4 2x62NIN9 2x7^Gc24mb2yB<@xahZ2.bb_2PIR2 2=P^Go&m,2TI2 2|F^Gu;2_^_^"]),
  (0x12400, [
    "0gWyK)_zb>3]:b>3l4b>3k/b>3?Yb>3=+b>3jUb>3x8b>3]:h$3l4h$3k/h$3?Yh$3=+h$3jUh$3x8h$3l4_^3k/_^",
    "3?Y_^3=+_^3jU_^3x8_^3y/mP3_zmP3]:mP3l4mP3k/mP3?YmP3=+mP3jUmP3x8mP3y/mR3_zmR3]:mR3l4mR3k/mR",
    "3_z>U3]:>U5|k&3l4>U3k/>U3?Y>U3=+>U3jU>U3x8>U3y/>W3_z>W3]:>W5|k&3l4>W3k/>W3>U^Gl?:Gh$7v53y/",
    "eG3_zeG3]:eG5|k&3l4eG3k/eG3]:|k&ESH16 6ESH21 3l4|k&s)6LIMMU4 6s)aI7cL3?Y|k&ASH9 3=+|k&IMIN",
    "3 6pCaI7cL3jU|k&USSU 6USSU3 3x8|k&o,6ILIMMU3 6ILIMMU4 6o,aI3_zb>]Q3]:b>]Q3l4b>]Q3k/b>]Q3?Y",
    "b>]Q3y/ce3_zce3]:ce3l4ce5|k&3k/ce5|k&3NIGIDAMIN 3NIGIDAESH 3y/j)3_zj)3y/]nh$3_z]oh$3k/?3h$",
    "3y/]n|k&aI3_z]o|k&aI3y/jWb>4;Ub>3y=b^y/?26;U3y/;UnA4nTnA3j5y/]n4_z]o4l04ky3l4_^|k&3k/_^|k&",
    "3?Y_^|k&3=+_^|k&3jU_^|k&3x8_^|k&"]),
  (0x12470, ["0gW:[)y=b^~>h+3|vfr3hofr4^^4QUADCOLON "]),
  (0x12480, [
    "0gW)aV^GyL]Q4><2a9^Gj(2cY^Gh$]Q2c1^GaW4xU4/B2d&z2d&^GwX2gq^G[v2gu^Gr?2h>^Go&4_^_^_^2h?^G_$",
    "2ip^GbT4b>5b#sl4h[4ir4j/4ly4mb4mgm,4mh4nM4n$4o&m,4qi4r?4r@5:Gqi4LAK-020 4sP5^Gr?4tl:Gmh4uf",
    "4vB4vL4xU4.s4>Z4>~m,2i!^Gr?4z?2j/~$2j(gMj(2k1>7^Gb>5n$5o&m,5r,5sO5u;5vB5@<3^G@<2lz^Gc14h>m",
    ",4ip^Go&m,6qi4j#4ly4l/:Ghm6wx4nM:GaI4r@:Gqi4sP5^Gr?4tl4v,4wx5:Gi!6mb4>f4/62l:<@xahZ2mQ^G_^",
    "2mh^GmhgMmh2m!^Go&m,2m%:Gmh^G[v2nM]Qm,2n$^Gb>z2n$^Gb>2qN^Gd&4qN4_^_^_^4|22sF^G/dz2/d2LAK-0",
    "03 2LAK-021 2LAK-025 2LAK-030 2sJ2LAK-051 2LAK-062 2sKz2sKm,2LAK-080 2sLz2sL2LAK-092 2LAK-",
    "130 2LAK-142 2LAK-210 2LAK-219 2LAK-220 2LAK-225 2LAK-228 2LAK-238 2LAK-265 2LAK-266 2LAK-",
    "343 2LAK-347 2LAK-348 2LAK-383 2LAK-384 2LAK-390 2LAK-441 2LAK-449 3^Gm/4o&4z?:Gth6z?:Gth4",
    "_|:GcQ2LAK-450 2LAK-457 2LAK-470 2LAK-483 2LAK-490 2LAK-492 2LAK-493 2LAK-495 2LAK-550 2LA",
    "K-608 2LAK-617 3^Gb>4cY4ism,m,4r;4r,4[]4[*4_|4_$4|62LAK-636 2LAK-648 3^Gio4ly4o&5m,4xU4z?:",
    "Gz?:Gth4>6:GrH4_$4|62LAK-724 2LAK-749 2tgm,^Gb>3^Gh$4nR4z?5:Gz?:Gth4[v2vL:G/C2v,z2v,^Gly6q",
    "02x7^Gh>m,4mh4m)4n$4q<4sJ4uf4z?:Gz?4_^5:G_^4|62=Pm,^GnM3^Gjk4>Zb#sl4[v2>H]Q2>Zz2>Z3:God4w7",
    "4=82><:Gip^GxU4i!^GbH2>~^G[v2[v:G=P2_9^Gl_]Q4]:h$2|3p53^G_$2|5^Gg/4LAK-668 4th2/C2/dz2/d:G",
    "=82/e^G]:h$]Q"]),
  (0x12F90, ["0gm)CM001 2CM002 "]),
  (0x12F9B, ["0gm)CM012B 2CM013 2CM015 2CM017 2CM019 2CM021 "]),
  (0x12FB2, ["0gm)CM044 2CM046 2CM047 "]),
  (0x12FCE, ["0gm)CM075B 2CM076 "]),
  (0x12FEB, ["0gm)CM107 2CM108 2CM109 2CM110 2CM112 2CM114 2CM301 2CM302 "]),
  (0x13005, ["0jKn&A005A 2A006 2A006A 2A006B "]),
  (0x13011, ["0jKn&A014A 2A015 2A016 2A017 2A017A "]),
  (0x13025, ["0jKn&A032A "]),
  (0x1302E, ["0jKn&A040A 2aJ2aK2A042A 2aL2A043A 2aM2aN2aO"]),
  (0x13055, ["0jKn&B005A 2cM2cN2cO2cP2C001 2C002 2C002A 2C002B 2C002C "]),
  (0x13067, ["0jKn&C010A "]),
  (0x1307E, ["0jKn&D008A "]),
  (0x13092, ["0jKn&D027A 2D028 2D029 2D030 2D031 2D031A 2D032 2D033 2D034 2D034A "]),
  (0x130A8, [
    "0jKn&D046A 2D047 2D048 2D048A 2D049 2D050 2D050A 2D050B 2D050C 2D050D 2D050E 2D050F 2D050G",
    " 2D050H 2D050I 2D051 2D052 2D052A 2D053 2D054 2D054A "]),
  (0x130CA, ["0jKn&D067A 2D067B 2D067C 2D067D 2D067E 2D067F 2D067G 2D067H "]),
  (0x130DA, ["0jKn&E008A 2E009 2E009A "]),
  (0x130E4, ["0jKn&E016A 2E017 2E017A 2E018 2E019 2E020 2E020A "]),
  (0x130F3, ["0jKn&E028A "]),
  (0x130FA, ["0jKn&E034A 2E036 2E037 2E038 2F001 2F001A "]),
  (0x1310C, ["0jKn&F013A "]),
  (0x13115, ["0jKn&F021A "]),
  (0x13120, ["0jKn&F031A "]),
  (0x13127, ["0jKn&F037A 2F038 2F038A "]),
  (0x13131, [
    "0jKn&F045A 2F046 2F046A 2F047 2F047A 2F048 2F049 2F050 2F051 2F051A 2F051B 2F051C 2F052 2F",
    "053 "]),
  (0x13145, ["0jKn&G006A 2G007 2G007A 2G007B 2G008 2G009 2G010 2G011 2G011A "]),
  (0x13157, ["0jKn&G020A "]),
  (0x1315E, ["0jKn&G026A "]),
  (0x13169, ["0jKn&G036A 2G037 2G037A "]),
  (0x13172, ["0jKn&G043A 2G044 2G045 2G045A "]),
  (0x13185, ["0jKn&H006A 2H007 2H008 "]),
  (0x1318D, [
    "0jKn&I005A 2I006 2I007 2I008 2I009 2I009A 2I010 2I010A 2I011 2I011A 2I012 2I013 2I014 2I01",
    "5 "]),
  (0x131A3, [
    "0jKn&L001 2L002 2L002A 2L003 2L004 2L005 2L006 2L006A 2L007 2L008 2t;2M001A 2M001B 2t<2t=2",
    "M003A "]),
  (0x131BA, [
    "0jKn&M010A 2t>2t?2M012A 2M012B 2M012C 2M012D 2M012E 2M012F 2M012G 2M012H 2t@2t[2t]2M015A 2",
    "t^2M016A 2t_2M017A "]),
  (0x131D2, ["0jKn&M022A 2t|2t~2M024A 2t#2t/2t!2t$2M028A 2t%2t&2t(2M031A 2t)2t*2M033A 2M033B "]),
  (0x131EA, ["0jKn&M040A 2t+2t,2uA2uB"]),
  (0x13201, ["0jKn&N018A 2N018B "]),
  (0x1320A, ["0jKn&N025A "]),
  (0x13213, ["0jKn&N033A 2N034 2N034A 2N035 2N035A 2N036 2N037 2N037A "]),
  (0x13225, ["0jKn&NL005A "]),
  (0x13232, ["0jKn&NL017A 2NL018 2NL019 2NL020 "]),
  (0x13240, ["0jKn&NU010A 2NU011 2NU011A "]),
  (0x1324A, [
    "0jKn&NU018A 2NU019 2NU020 2NU021 2NU022 2NU022A 2O001 2O001A 2O002 2O003 2O004 2O005 2O005",
    "A 2O006 2O006A 2O006B 2O006C 2O006D 2O006E 2O006F 2O007 2O008 2O009 2O010 2O010A 2O010B 2O",
    "010C "]),
  (0x1326E, [
    "0jKn&O019A 2O020 2O020A 2O021 2O022 2O023 2O024 2O024A 2O025 2O025A 2O026 2O027 2O028 2O02",
    "9 2O029A 2O030 2O030A 2O031 2O032 2O033 2O033A 2O034 2O035 2O036 2O036A 2O036B 2O036C 2O03",
    "6D "]),
  (0x13298, ["0jKn&O050A 2O050B 2O051 2P001 2P001A 2P002 2P003 2P003A "]),
  (0x132AF, ["0jKn&R001 2R002 2R002A 2R003 2R003A 2R003B "]),
  (0x132BC, ["0jKn&R010A "]),
  (0x132C3, ["0jKn&R016A "]),
  (0x132D1, ["0jKn&S001 2S002 2S002A 2S003 2S004 2S005 2S006 2S006A "]),
  (0x132E1, ["0jKn&S014A 2S014B 2S015 2S016 2S017 2S017A "]),
  (0x132F0, ["0jKn&S026A 2S026B "]),
  (0x132FB, ["0jKn&S035A "]),
  (0x13307, [
    "0jKn&T001 2T002 2T003 2T003A 2T004 2T005 2T006 2T007 2T007A 2T008 2T008A 2T009 2T009A 2T01",
    "0 2T011 2T011A "]),
  (0x1331C, ["0jKn&T016A "]),
  (0x1332D, ["0jKn&T032A 2T033 2T033A 2T034 2T035 2T036 "]),
  (0x13339, ["0jKn&U006A 2U006B "]),
  (0x1334C, ["0jKn&U023A "]),
  (0x13353, ["0jKn&U029A 2U030 2U031 2U032 2U032A "]),
  (0x13362, [
    "0jKn&V001 2V001A 2V001B 2V001C 2V001D 2V001E 2V001F 2V001G 2V001H 2V001I 2V002 2V002A "]),
  (0x13373, [
    "0jKn&V007A 2V007B 2V008 2V009 2V010 2V011 2V011A 2V011B 2V011C 2V012 2V012A 2V012B "]),
  (0x13387, [
    "0jKn&V020A 2V020B 2V020C 2V020D 2V020E 2V020F 2V020G 2V020H 2V020I 2V020J 2V020K 2V020L 2V",
    "021 2V022 2V023 2V023A "]),
  (0x1339C, [
    "0jKn&V028A 2V029 2V029A 2V030 2V030A 2V031 2V031A 2V032 2V033 2V033A 2V034 2V035 2V036 2V0",
    "37 2V037A 2V038 2V039 2V040 2V040A 2W001 2W002 2W003 2W003A "]),
  (0x133B9, [
    "0jKn&W009A 2W010 2W010A 2W011 2W012 2W013 2W014 2W014A 2W015 2W016 2W017 2W017A 2W018 2W01",
    "8A "]),
  (0x133CD, [
    "0jKn&W024A 2W025 2X001 2X002 2X003 2X004 2X004A 2X004B 2X005 2X006 2X006A 2X007 2X008 2X00",
    "8A 2Y001 2Y001A "]),
  (0x133E4, [
    "0jKn&Z001 2Z002 2Z002A 2Z002B 2Z002C 2Z002D 2Z003 2Z003A 2Z003B 2Z004 2Z004A 2Z005 2Z005A "]),
  (0x133FB, [
    "0jKn&Z015A 2Z015B 2Z015C 2Z015D 2Z015E 2Z015F 2Z015G 2Z015H 2Z015I 2Z016 2Z016A 2Z016B 2Z0",
    "16C 2Z016D 2Z016E 2Z016F 2Z016G 2Z016H "]),
  (0x13414, ["0jKn&AA007A 2AA007B "]),
  (0x13430, ["0jKn&|vqD2o0qD2INSERT b#^i@d4dv@d4^ijp4dvjp2z7vQ2c~=.2jp=."]),
  (0x1440A, ["0bIn&A010A "]),
  (0x1441B, ["0bIn&A026A "]),
  (0x14429, ["0bIn&A039A 2A040 2aJ2A041A 2aK2aL2aM2aN2aO2A046 2A046A 2A046B "]),
  (0x14449, ["0bIn&A066A 2A066B 2A066C "]),
  (0x1446B, [
    "0bIn&A097A 2A098 2A098A 2A099 2A100 2A100A 2A101 2A101A 2A102 2A102A 2A103 2A104 2A104A 2A",
    "104B 2A104C 2A105 2A105A 2A105B 2A106 2A107 2A107A 2A107B 2A107C 2A108 2A109 2A110 2A110A ",
    "2A110B "]),
  (0x1448C, ["0bIn&A115A "]),
  (0x14497, ["0bIn&A125A "]),
  (0x144A2, ["0bIn&A135A "]),
  (0x144E6, ["0bIn&A202A 2A202B "]),
  (0x144ED, ["0bIn&A207A 2A208 2A209 2A209A "]),
  (0x144F7, ["0bIn&A215A 2A216 2A216A "]),
  (0x14505, ["0bIn&A227A "]),
  (0x1452E, ["0bIn&A267A "]),
  (0x14545, ["0bIn&A289A "]),
  (0x1454B, ["0bIn&A294A "]),
  (0x14551, ["0bIn&A299A "]),
  (0x1455C, ["0bIn&aQ"]),
  (0x14571, [
    "0bIn&A329A 2A330 2A331 2A332A 2A332B 2A332C 2A333 2A334 2A335 2A336 2A336A 2A336B 2A336C "]),
  (0x14595, ["0bIn&A359A "]),
  (0x1459B, ["0bIn&A364A 2A365 2A366 2A367 2A368 2A368A 2A369 2A370 2A371 2A371A "]),
  (0x145AF, ["0bIn&A381A 2A382 2A383 ;czH<R2A383A 2A384 2A385 2A386 2A386A "]),
  (0x145BD, ["0bIn&A393 jU"]),
  (0x145CE, ["0bIn&A410 c~tWu82A410A jptWu8"]),
  (0x145F8, ["0bIn&A450A "]),
  (0x14600, ["0bIn&A457A "]),
  (0x16800, [
    "0cc$PHASE-A xLvH3GBIEE FON 3:XvH.$5.!3wYvH3SHUENSHUET 3^NvH3yfvH3SHINDA zixk3:Xzixk.$6.!3M",
    "AEMBGBIEE 3_5uK3NGANGU 3MAEMVEUX 3MANSUAE 3MVEUAENGAM 3SEUNYAM 3NTOQPEN 3KEUKEUTNDA 3NKIND",
    "I 3[O3NGKUENZEUM 3LAPAQ 3s=r[3x(MFAA 3MAEKEUP 3PASHAE 3GHEUAERAE 3PAMSHAE 3vixD3NZUN vG3_^",
    "#_w23GHEUAEGHEUAE 3x(x&3SISA 3MGBASA 3MEUNJOMNDEUQ 3MOOMPUQ 3KAFA 3zisk3wmsk3PET 3MAEMKPEN",
    " 3NIKA 3:]3TUAEP 3LUAEP 3SONJAM 3TEUTEUWEN 3MAENYI 3q=3NDAANGGEUAET 3KUOQ 3MOOMEUT 3SHUM 3",
    "LOMMAE 3FIRI 3ROM 3KPOQ 3SOQ 3u2PIEET 3SHIRAE 3x(3>tx$#]3ybMONGKEUAEQ 3PAARAE 3xq3UNKNOWN ",
    "3xC3uL3xg3uo3y53]Z3?_3zl3x!3uJ3y73KAQ 3x/3|q3tf3w<3wb3MBAQ 2PHASE-B NSHUET 3_5MAEMGBIEE 3S",
    "IEE 3=)_53tXx*3umMAELEE 3KIEEM 3YEURAE 3MBAARAE 3KAM 3PEESHI 3YAFU sk3sPx$y13NTIEE SHEUOQ ",
    "3wwNJAA 3GHEUGHEUAEM 3.(3_5x%3>8NJAQ 3SHEUAEQTU 3vH]03uuMBAAKET 3y7x*3KEUPUQ 3GHEUGHEN 3KE",
    "UYEUX 3LAANAE 3PARUM 3VEUM 3NGKINDI wF3NGGEU ux3WUAET 3SAKEUAE 3TAAM 3MEUQ 3NGGUOQ 4s13MFI",
    "YAQ 3@%3MBEURI 3MONTIEEN 3NYAEMAE 3PUNGAAM 3vGNGGEET 3FEUX 3MBUOQ 3kk3KEUAEM 3uCNJEUAENA 4",
    "NJUQA 3s=3w,3NSEN 3uC3KIQ 3xP2PHASE-C xLuK3yf3#]3WANGKUOQ 3xC3NDEUAEREE 3NGKAQ 3GHARAE 3MB",
    "EEKEET 3GBAYI 3NYIR MKPARAQ vF3NTU uu3us3PIRIEEN 3NDOMBU 3unCABBAGE-TREE 3KEUSHEUAEP 3GHAP",
    " 3KEUKAQ 3#=MUOMAE 3NZEUM 3MBUE 3NSEUAEN 3uu3YEUQ 3KPARAQ 3qP3=*3NDIDA 3TAASHAE 3xp3^NYUE ",
    "3SUAET 3NGGUAEN y13VEUX 3NANSANAQ 3uCKEUAERI 3x&3NGGUON 3s03MBIRIEEN 3MGBASAQ 3NTEUNGBA 3T",
    "EUTEUX 3NGGUM 3ln3NDEUT 3NSA 3NSHAQ 3BUNG 3VEUAEPEN 3MBERAE 3<(3xe3sP3TITUAEP 3NSUOT xP3NJ",
    "EEEE 3q=3xH3uL3MBUAEM 3tf3r[3xg3xP3WUP 3NGGUEET 3NSOM 3NTEN 3r>xq3NSUN 3wo3uCx%3#H3wp3SHUE",
    "Q 3SETFON 3ut3uK3uo3KEUSEUX 3MBEUX 3q?3unPICKET 3##3xj3vT3v~3>j3q.sa4FATIGUE 3NGAQ 3wb3LIQ",
    " 3.|3.S3]T2PHASE-D MBUO 3~M3xk3vH3NJIEE 3LIEE 3NJEUT 3NSHEE 3NGGAAMAE 3y13WUAEN 3NGKUN 3>0",
    "3NGKAP 3KEUAETMEUN 3TEUT 3SHEUAE 3NJAP 3@%3q=3YAEMMAE 3KUOM 3=73MFEUT 3NDEUX 3MALEERI 3vG3",
    "SEUAEQ 3#63NJEUAEM 3KEUOT MBUAE 3NGKEURI 3_53m13NGKYEE 3FEUFEUAET 3wr3MGBOFUM 3LEUAEP 3NDO",
    "N 3MONI 3MGBEUN 3PUUT 3MGBIEE 3MFO 3tn3NSIEEP 3un3KWAET 3y53]Z3?_3##3q?3RAEM 3TEEEE 3NGKEU",
    "AEQ 3MFEUAE 3NSIEET 3KEUP 3./3PEUTAE 3NYUE 3s=3w,3MFIEE 3NGGWAEN 3YUOM 3z?3#^3wo3x*3SUAE 3",
    "r=3NGGEUX 3NGKIEE 3_a3vF3KUQ 3NSUM 3TEUN 3MAENJET 3NGGAP 3LEUM 3NGGUOM 3x$3xp3m63r:3;)y=3[",
    "n3^l3y73<i3sj3u_3t:3[O3v|3>e3>93r)3yA3>;3x)3.O3xU3>t3PUQ 3wF3t53;)v!3]^3x,3un=+3SAQ 3k62PH",
    "ASE-E wp3TOON 3us3s03VOM 3LOON 3zj3??3RAQ 3NSHUOP 3NDUN 3:?3[:3xK3KPEUX 3~#3=y3xD3zl3^g3r>",
    "3tX3x!3xR3uJ3NGKEUX 3NGOQ 3NSHUE 3RIMGBA 3xj3PEEM 3=J3NGGURAE 3vI3GHEUX 3NGKEUAEM 3xf3u23t",
    "43NGGEEEE 3NDIQ 3TAEN x*3=)3PUM 3wnSOFTNESS 3NGGUAESHAE y13YIEE 3GHEUN 3TUAE 3YEUAE 3:K3TU",
    "MAE 3KEUAE 3SUAEN 3]03VEUAE 3WEUX 3sB3:=3TAAQ 3GHAAMAE 3NGEUREUT 3SHEUAEQ 3MGBEN 3uq3NZAQ ",
    "3NKOM 3GBET 3_93KUET 3#S3y7CLEAVER 3#p3MFEUQ 3NDIAQ 3PIEEQ 3YUEQ 3LEUAEM 3ln3GBEUX 3NGKUP ",
    "3q=3uI3NGKAAMI 3GHET 3k53NTUM 3PEUT 3YEUM 3NGGEUAE 3y7dG3NZUQ 3POON 3vT3FUET 3w23v~3m63lmo",
    "w3MVI 3PUAQ 3NGKUM 3r[3PIET 3x(3YEUAET 3NGGUP 3zi.Y3lmeZ3lP3xi3aI3^l3yh3ow3LAQ 3ziPLURAL 3",
    "[h3TAQ 3wnwPo93>j3YEUX 3NGUAE 3YUAEN 3#.SWIMMING 4f)3#_3YUN 3q@3.e3xiEPOCH 3:@3~~3kk3|q3tf",
    "3vL3<I3;m3NGUAET 3w%3>m3>t3lmREMEDY 3wW3.s3t53ra3u)3uC3u43TEU 3rH3vi3]K3FAQ 3GHOM 2PHASE-F",
    " qN3_^3r:3jF3;~3[n3y73r,3<i3<U3u_3[h3wn3xe3t:3[O3>e3>~3=*3r)3q=3yC3yA3xo3#.3>;3#F3x/3.e3x)",
    "3~~3.O3<(3xU3<I3q.3xM3w+3>m3:?3lP3~E3s#3t53ra3ur3;)3uC3ve3un3]T3rp3=Z3VUEQ "]),
  (0x16A40, [
    "0v^$[e2xJ2#s2v42cQ2gq2aI2.k2q/2HAO 2DAI 2fQ2KEAAE 2y<2uJ2x62zi2y(2yh2<t2>b2THEA 2i$2~E2i/2",
    "ra2sV2r,2HAI 2<R2TEK "]),
  (0x16A60, ["0v^h:/S2y/2_z2]:2l42k/2?Y2=+2jU2x8"]),
  (0x16A6E, [
    "0v^g>1i1g>0[?$OZ 2OC 2zG2zc2cJ2a02bf2cC2VZ 2VC 2VQ 2VX 2k02jB2EQ 2kM2IZ 2o:2pa2pp2UZ 2_!2U",
    "Q 2UX 2AWZ 2AWC 2AWQ 2cB2UIZ 2UIC 2UIQ 2UIX 2k=w$2tY_(2>u_)3cB2UEC 2_)2UEQ 2_(2UIUZ 2UIUC ",
    "2UIUQ 2UIUX 2MZ 2uy2MQ 2MX 2qN2q|2ly2w%2=I2#F2~E2zi2yZ2.f2cQ2uC2wW2nM2r,2ob2[e2gq2;c2xT2>F",
    "2eT2_A2m02HTTA 2]32~%2k52hj2e<2/B"]),
  (0x16AC0, ["0[?h:/S2y/2_z2]:2l42k/2?Y2=+2jU2x8"]),
  (0x16AD0, [
    "0cp|g$ENNI 3qN3=s3k53up3#m3l>3DHII 3KPAH 3qA3HWAH 3~E3/a3mD3iI3er3UWU 3^13cQ3|+3YEIN 3zi3W",
    "ADDA 3aI3yh3y(3_^3jF3i/3ow"]),
  (0x16AF0, ["0cp|gfsn)^53t8^53vO^53LOW-MID ^53HIGH-LOW ^52lo@q"]),
  (0x16B00, [
    "0zqoL|)KEEB 3KEEV 3KIB 3KIV 3KAUB 3KAUV 3KUB 3KUV 3KEB 3KEV 3KAIB 3KAIV 3KOOB 3KOOV 3KAWB ",
    "3KAWV 3KUAB 3KUAV 3KOB 3KOV 3KIAB 3KIAV 3qR3KAV 3KWB 3KWV 3KAAB 3KAAV 2f=VAU 3NTSAU 3LAU 3",
    "nm3NLAU 3RAU 3NKAU 3QHAU 3YAU 3HLAU 3MAU 3CHAU 3NCHAU 3HNAU 3PLHAU 3NTHAU 3NAU 3b%3XAU 3CA",
    "U 2u8fVTUB 4?y4KES 4KHAV 4SUAM 4HOM 4TAUM 2)|&THOM 4TSHAB CEEB 3fVCHEEM 3|&THIAB 4FEEM 3XY",
    "EEM NTXIV 4<Q4TOV 4FAIB 3|&SEEV 3u|SUAB 3|&NRUA 3o.#P3XAUS 3fVTSOV <x"]),
  (0x16B50, ["0zqoLh:/S3y/3_z3]:3l43k/3?Y3=+3jU3x8"]),
  (0x16B5B, ["0zqoLyH]M3oj3]K]z3v33oiv33]KBILLIONS 3TRILLIONS "]),
  (0x16B63, [
    "0zqoL)|&LUB 3XYOO 3oJ3THIRD-STAGE oJ3ZWJ THAJ 3HNUB 3NQIG 3XIAB 3NTUJ 3b)3TXHEEJ CEEV 3u|T",
    "SEEB 3[~3LOS 3MUS 3fVHAIS LUS x+x+4CUAM TSHOOJ 4TXWV 5CHWV 4PUB DAWB 4NRES TOS "]),
  (0x16B7D, [
    "0zqoLf7)TSHEEJ 4YEEG 4LIS 4LAUJ 4XYOOJ 4ri4HAWJ 4MUAS 4THOJ 4TSAB 4PHAB 4KHAB 4HAM 4VAJ 4F",
    "AJ 4#L4TSWB 4KWM 4VWJ "]),
  (0x16E40, [
    "0MEDEFAIDRIN ($t:3=G3|d3~D3b!3/A3ro3zh3[d3lx3k43ow3qM3aI3pu3i/3cL3eR3_^3#=3r*3:*3oa3yY3~$3",
    "gp3yp3wT3;a3yh3au3#D1%$t:3=G3|d3~D3b!3/A3ro3zh3[d3lx3k43ow3qM3aI3pu3i/3cL3eR3_^3#=3r*3:*3o",
    "a3yY3~$3gp3yp3wT3;a3yh3au3#D1h:/S2y/2_z2]:2l42k/2?Y2=+2jU2x81yH]K2j92_n2]p2l52kv2?Z2=,2jV2",
    "x91h:y/a,&2_za,&2]:a,&1ft1lo@q1[8AIVA 1kNyv"]),
  (0x16F00, [
    "0vM$zi2cQ2#kzi2.+2uC2vK2bouC2k52|e2VFA 2[e2gq2#k_Q3[e2_Q2hC2wW2xT2#kxt2bowW2xt2NNHA 2r,2LY",
    "A 2s^2LHYA 2^T2DLHA 2TLHYA 2DLHYA 2qN2ly2#kqN2:+2QGA 2w%2xI2bow%2nM2~%2m02m72TSSA 2DZZA 2y",
    "Z2y62_F2i?2#k_F3i?2;#_F2>F2@T2/U2ZSHA 2_A2i;2#k_A2=I2/B2ZSA 2/i2ZZSA 2bo/i2ZZYA 2ZZSYA 2~E",
    "2as2n#2BRI 2SYI 2DZYI 2[*2_D2RTE "]),
  (0x16F4F, [
    "0vM)f=vhcg1$wf1)b]2;#|!3b]1|))aI3aR3AHH 3bH3bL3yh3y(3~w3~D3i/3jk3jq3OEY 3ow3ox3oy3IANG 3p6",
    "3o/3o)3po3pN3_^3_~3UAN 3UANG 3|a3UEI 3UNG 3#D3#k3ad3ag3j!3<~j!3j_3<~j_3au3jS3b%3zV3wT3w$3U",
    "OG 3YUI 3OG 3OER 3VW 3o%3i$3IONG 3_,"]),
  (0x16F8F, ["0vM^5,2^i,2aZ2c&"]),
  (0x16F9A, ["0vM$;#^63^73^93^a3^b3^d"]),
  (0x16FE0, ["0TANGUT pnu80NUSHU pnu80y=fHoXu82pnu80KHITAN %=rk;"]),
  (0x16FF0, ["0VIETNAMESE a,READING u8eT4NHAY "]),
  (0x1AFF0, ["0ql$v7^73^83^93^a"]),
  (0x1AFF5, ["0ql$v7^c3^d"]),
  (0x1AFFD, ["0ql$v7NASALIZED ^c4^d"]),
  (0x1B000, ["0ql$boi/0oD$bo#10n?$A-1 2A-2 2A-3 2A-WO 2I-1 2I-2 2I-3 2I-4 "]),
  (0x1B014, ["0n?$O-1 2O-2 2O-3 "]),
  (0x1B022, ["0n?$KA-KE "]),
  (0x1B038, ["0n?$KO-1 2KO-2 2KO-3 2KO-KI "]),
  (0x1B05E, ["0n?$TA-1 2[f2TA-3 2TA-4 "]),
  (0x1B069, ["0n?$TU-1 2TU-2 2TU-3 2TU-4 2TU-TO "]),
  (0x1B07D, ["0n?$TO-RA "]),
  (0x1B08E, ["0n?$NI-TE 2NU-1 2NU-2 2NU-3 "]),
  (0x1B098, ["0n?$NE-KO "]),
  (0x1B0B0, ["0n?$HU-1 2HU-2 2HU-3 "]),
  (0x1B0D0, ["0n?$MU-1 2MU-2 2MU-3 2MU-4 2ME-1 2ME-2 2ME-MA "]),
  (0x1B0E2, ["0n?$#G2YU-1 2YU-2 2YU-3 2YU-4 "]),
  (0x1B0ED, ["0n?$RA-1 2;d2RA-3 2RA-4 "]),
  (0x1B0FE, ["0n?$RE-1 2RE-2 2RE-3 2RE-4 "]),
  (0x1B112, ["0n?$WE-1 2WE-2 2WE-3 2WE-4 "]),
  (0x1B11D, ["0n?$N-MU-MO-1 2N-MU-MO-2 0oD$bo~|0ql$bo#k3#13~|"]),
  (0x1B150, ["0oD$%~j3~33~w"]),
  (0x1B164, ["0ql$%~j3~33~w3wT"]),
  (0x1BC00, [
    "0iu$nL2~$2zh2[d2k42qM2r*2cL2gp2|d2lx2;a2zhwT2gp=G2k4wT2qMt:2;a=G2]22?khi2hi2rW2?kpu2HL 2s]",
    "2RH 2t:2wT2pu2=G2t:wT2wTt:2put:2=Gpu2t:!iX2wT!iX2pu!iX4iZpU*aZ2=G!iX5c&2t:=G2wT=G2pu=G2=G=",
    "G2t:wT=G2wTt:=G2put:=G2=Gpu=G2pu=G!iX3wT4=G2=G[d4;a3zh4;a2[d=G3;a=G2~D2WH 2~D;a2=GwT3t:2qM",
    ";a=G2lx;a=G2=GqM4;a2aI2?kzb2yi2yh2AOU 2ow2i/2o/2>uow2_,2jF2?kjM2<;ow2?kjF2tYow2#12_^2kF2#A",
    "2_^wT2tY_^2<;_^2_+2?k_^2OOH 2zb2zV2~E2~w2~j2~72WOW 2we_^3yh3ow3aI2PERNIN bH3bD2?kjk3bH3y~2",
    "|#t:"]),
  (0x1BC70, ["0iuapslo0=v2vOo0=v2,o0=v2t8|v=v2vO|v=v2n)|v=v2b$=v3sq=v3[>3[t3i/oX3owoX3[>oX"]),
  (0x1BC80, ["0iuapn)a83]!a83m:3tYm:3iX3fX3s*3~T3|v"]),
  (0x1BC90, ["0iuapt8a83]!a83m:3tYm:3iX3fX3s*3~T3|v3+"]),
  (0x1BC9C, [
    "0iu)yh!gG1THICK $=>1i1u81:[CHINOOK lo@q0SHORTHAND FORMAT $z52CONTINUING z52i7@j2|U@j"]),
  (0x1CF00, [
    "0/9fsu8mtxb=Gryy~sl3xb=Gryy~sl3_Cy~sl3mtxby~sl3xby~sl3@Ry~sl3uV:9y~sl3:9y~sl3~Cy~sl3uV:9=G",
    "rFy~sl3:9=GrFy~sl3~C=GrFy~sl3mtxb=Gryy~,3xb=Gryy~,3_Cy~,3mtxby~,3xby~,3@Ry~,3uV:9y~,3:9y~,",
    "3~Cy~,3uV:9=GrFy~,3:9=GrFy~,3~C=GrFy~,3_C=Gry3uV:9=Gry3@uuV:93:9=Gry4@u3~C=Gry3uV:9@u3mt~C",
    "3ZELO 3y~3RAVNO 3],3BORZAYA 3UDARKA 3PODVERTKA 3LOMKA 3KUPNAYA 3KACHKA 3ZEVOK 3SKOBA 3RAZS",
    "EKA 3rxy~sl"]),
  (0x1CF30, [
    "0/9fs^4;vu8MRACHNO 5SVETLO 5TRESVETLO 2u8/E3h5/E3OTSECHKA 3:L4!|v@z3e~4POLNAYA 3OBLACHKO 3",
    "?^x~3TOCHKA 3DVOETOCHIE 2ATTACHING |vy^2u8g7y^3rx2tb^4;vpK1PRIZNAK vhLEVEL-2 3LEVEL-3 3h|l",
    "B3rx3<x"]),
  (0x1CF50, [
    "0/9NEUME KRYUK 3^A2PARAKLIT 2DVA |dCHELNU 2rZ2ZANOZHEK 2@r3=GOCHKOM 2PEREVODKA 3w?2@r!?^x~",
    "2e)2PALKA 2/I2GOLUBCHIK BORZY 3^A3MRACHNY 3SVETLY 3TRESVETLY 2VRAKHIYA :y3v]3[S3^?3r1:y4v]",
    "4[S4^?2i1/I2<Ke)2DERBITSA 2KHAMILO 2e~2:L2?9v]3[S3^?3],2h5rZ2?9r1[S3r03r1],3iw:y4[S4w?4r12",
    "SLOZHITIE 3=G/J3ZAKRYTOE 3=Gry2rx2<x2k#2KOBYLA 2ZMEYTSA 2@f3=G/J4ry4/Jowry4ryow/J3ZAKRYTAY",
    "A 4=G/J3=GROGOM 4DVUMYA ZAPYATYMI 4/JowPODCHASHIEM 2POLKULIZMY 2@fw?2@w:y3MRACHNOTIKHAYA 3",
    "KRYZHEVAYA 3POLUPOVODNAYA 3:83w?3KLYUCHEPOVODNAYA 3r03],PUTNAYA 3iw3DVOECHELNOKRYZHEVAYA 3",
    "ix3iwr13ixr13m[!?J/I3m^!?J/I3m[3m^4!i1/I3m]4:82MECHIK 3POVODNY 3KLYUCHEVOY 3KLYUCHEPOVODNY",
    " 3KLYUCHENEPOSTOYANNY 2@wTRYASOGLASNAYA 3TRYASOPOVODNAYA 3TRYASOSTRELNAYA 2OSOKA 3[S3^?3rw",
    "[S3r1[S4w?2@wrw4:84m[!?J/I4m^!?J/I4m[4m^5!i1/I4m]5:84TRYASKA 2KUFISMA 2OBLAKO 2DUDA 2NEMKA",
    " 2PAUK "])]

end ModuleDocs.CharacterName
