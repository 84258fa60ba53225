/-! # Names of letters and signs of East Asia

    The names of the code points from U+2E80 to U+FFFF, those in numbered
    series apart, each as what is new in it after the one before. -/

namespace ModuleDocs.CharacterName

/-- The names, written briefly: the first code point, and the names from it on. -/
def eastAsia : List (Nat × List String) := [
  (0x2E80, [
    "0f6;k;+2fa2=wy/3_z3]:2.92d.2[k2r3y/3_z2h,2=t2%y/3_z2sRy/3_z3]:3l42?t2].2?uy/3_z2nty/3_z2nZ",
    "2;w"]),
  (0x2E9B, [
    "0f6;kCHOKE 2[B2vv2hS2vy2CIVILIAN 2~Ry/3_z2k]2.Ey/3_z2?HnT^.^+2f+2iO2pz2dlysfh2kU2@Ey/3_z2c",
    "a2?D2eS?D2w_y/3_z3]:3l42vC2>22;s2kL2y=2d%y/3_z2u>2vx2m.y/3_z3]:2]/2fi2~ay/3_z2eS=y2?Ho12o1",
    "2eS@A3>52lT2eSeg2?H~I2~Iy/3_z2f42eSmr2tYy/3_z2eStY3l$2v.y/3_z2;p2dd2eS[@sh3sg3~p3lK2i,y/3_",
    "z3]:2eSi,2np2eSo42dm2m92eSk_3dW3=U2?H~e3#52eSlf2pvkJ2eSkJ2pv^h2eS^h2pvic2eSic2_h2pv_h2eS_h"]),
  (0x2F00, [
    "0KANGXI ;ky/2s*2iX2?g2=w2oX2_z2s/2uW2LEGS 2jv2jU2i7d.2f)2o;2[k2y,d.2r32:a2WRAP 2@I2,y,d.2H",
    "IDING jn2]K2h,2=t2fa2PRIVATE 2AGAIN 2v<2jn2i)2SCHOLAR 2mp3SLOWLY 2EVENING 2dP2~y2fE2ROOF 2",
    "INCH 2%2sR2CORPSE 2SPROUT 2v:2RIVER 2~?2ONESELF 2_d2im2>u].2i0fa2tYSTRIDE 2_znb2SHOOT 2dx2",
    "?u2BRISTLE 2@j2nt2HALBERD 2iW2nZ2d>2;w2=r2DIPPER 2cD2@K2x>2[B2=h2vv2^.2LACK 2@q2hS2WEAPON ",
    "2iIx>2COMPARE 2ls2f72@h2~R2k]2CLAW 2kg2i1~$2nT^.^+2?i2FANG 2f+2iO2PROFOUND 2pz2u$2^D2[02LI",
    "FE 2USE 2ku2dlysfh2SICKNESS 2i0]O2~h2SKIN 2h$2kU2?+2+2@p2@E2^u2GRAIN 2CAVE 2STAND 2ca2<T2?",
    "D2p:2w_2>22kj2y=2*2PLOW 2i&2d%2u>2MINISTER 2=?2ARRIVE 2vx2^e2OPPOSE 2dh2STOPPING 2COLOR 2m",
    ".2]/2INSECT 2da2~Ijn2fi2~a2=y2o12@A2VALLEY 2BEAN 2.]2cZ2>52;_2RUN 2lT2di2eg2BITTER 2MORNIN",
    "G 2~I2f42~s2DISTINGUISH 2VILLAGE 2mr2tY2l$2v.2SLAVE 2>u[udW2;p2dd2WRONG 2k72sh2[@sh2LEEK 2",
    "?~2sg2~p2lK2i,2np2FRAGRANT 2o42dm2[z2nQ2FIGHT 2SACRIFICIAL ~s2el2m92k_2dW2=U2hX2~e2HEMP 2#",
    "52MILLET 2d12EMBROIDERY 2lf2TRIPOD 2il2;x2x=2kJ2^h2ic2_h2lI"]),
  (0x2FF0, [
    "0o~DESCRIPTION e]sl^1,3aZ^1c&3sl^1vQ*,3aZ^1vQ*c&3lo[M3[MlgaZ5c&5sl5|Xsl6,5tbsl3z4"]),
  (0x3000, [
    "0o~?$1ft1lo@q0DITTO u80p.INDUSTRIAL @b[80o~pnu81fgu81yH/S0slbNd;0,bNd;0sli1bNd;0,i1bNd;0sl",
    "f&d;0,f&d;0sl~hf&d;0,~hf&d;0sld1s.d;0,d1s.d;0:3u80GETA u80sl^n>5d;0,^n>5d;0sl~hs.d;0,~hs.d",
    ";0sl~h^n>5d;0,~h^n>5d;0sl~h@Kd;0,~h@Kd;0~Tg%0<Ki1:o;3u80i1:o;3u80t8i1:o;3u80:3u8k70ndyIy/2",
    "_z2]:2l42k/2?Y2=+2jU2x80o~s@^5u81<n^5u81h9^5u81ENTERING ^5u80nc?JiX^5u81i1iX^5u80~Wg%0|vKA",
    "NA ;+u83!|/?~u83u8|XnT3!|/?~u8|XnT3u8tbnT0fY:3u80o~]Es*kl=![80ndyI]K2_q2]q0|vo~pnu80MASU u",
    "80z)ALTERNATION u80o~|lpK1nTk:?$"]),
  (0x3041, [
    "0oD$%aI2aI2%ow2ow2%_^2_^2%i/2i/2%yh2yh2qN2ly2rH2mb2r:2m/2qt2mF2ra2mp2=I2/B2>~2/32@<2/d2=s2",
    "/N2?y2/a2[e2gq2]^2hm2%_52_52in2[*2hR2^12iI2wW2xU2yA2wx2xv2nM2cQ2zi2n$2dN2.s2oc2d&2:=2no2c<",
    "2.I2oN2de2:K2uC2vL2v|2u;2ve2%#F2#F2%#=2#=2%#s2#s2;c2<R2<(2;<2<t2%~E2~E2~j2~32~w2wT2|+2%qN3",
    "qt"]),
  (0x3099, [
    "0fsqm|/?~u82=@?~u80qm|/?~u81=@?~u80oDpnu81|/pnu81h=YORI 0qmi1os0ql$%aI2aI2%ow2ow2%_^2_^2%i",
    "/2i/2%yh2yh2qN2ly2rH2mb2r:2m/2qt2mF2ra2mp2=I2/B2>~2/32@<2/d2=s2/N2?y2/a2[e2gq2]^2hm2%_52_5",
    "2in2[*2hR2^12iI2wW2xU2yA2wx2xv2nM2cQ2zi2n$2dN2.s2oc2d&2:=2no2c<2.I2oN2de2:K2uC2vL2v|2u;2ve",
    "2%#F2#F2%#=2#=2%#s2#s2;c2<R2<(2;<2<t2%~E2~E2~j2~32~w2wT2|+2%qN3qt2|e2|.2|n2|~1vQiX0qm:u?~u",
    "80qlpnu81|/pnu81h=rn"]),
  (0x3105, [
    "0ds$cL2zh2t:2k42gp2[d2wT2r*2lx2qM2nL2pu2:*2~$2ZH 2e;2>E2;a2/A2eR2=G2aI2yh2i/2jM2au2jS2b%2z",
    "V2bH2jk2bL2jq2j_2ow2_^2po2|d2w$2GN 2o(2yh!iXaZ2xs"]),
  (0x3131, [
    "0nc$rT2@X2rU2xW2xX2xY2]%2@22<V2<Z2<12<52<72<92<42<W2vU2.y2@Z2.=2?N2@12o!2fT2@U2fD2rB2]k2.l",
    "2n(2aI2ad2#F2#I2j.2i/2#82#12yh2~E2~G2yp2#s2_^2~92~32~j2#=2kF2#k2ow1k;1$@Y2x22x12x02<02<a2<",
    "62<32<b2vX2vY2vW2qa2.;2.[2.>2.?2..2.@2qc2qe2?R2?T2?X2?U2?P2z=2@W2#d2#f2#e2qb2@V2#92#u2#v2#",
    "t2#@2#?2#>2bk2ARAEAE "]),
  (0x3190, [
    "0o~bRLINKING u82<Ju82y/u82_zu82]:u82l4u82^iu82vQu82dvu82k^u82=wu82]nu82l6u82nwu82i)u82uWu8",
    "0ds$d&2/32p~2m/2jF2js2y(2y%2pb2ANN 2INN 2|S2pA2NGG 2AINN 2AUNN 2bD2y[2y$2INNN 1k=$zh3[d3qM",
    "3nL1$GH 2s]2/h1k=$lx1$GW 2r^2yp2as0f6@z[d2WG 2XG 2BXG 2[T2HZZ 2HZG 2oa2HZWG 2SZWG 2HZT 2HZ",
    "ZP 2HPWG 2HZW 2HZZZ 2wT2nL2=G2zh2SP 2gp2ov2n~2SZ 2SWZ 2@82SG 2PD 2PZ 2TN 2SZZ 2SWG 2HXWG 2",
    "HZZZG 2PG 2:*"]),
  (0x31F0, [
    "0ql$%r:3>~3@<3^13yA3nM3n$3oc3no3oN3v|3;c3<R3<(3;<3<t0z&ncrT2xW2]%2<V2vU2.y2?N2o!2fT2fD2rB2",
    "]k2.l2n(2rTaI2xWaI2]%aI2<VaI2vUaI2.yaI2?NaI2o!aI2fTaI2fDaI2rBaI2]kaI2.laI2n(aI2fT_^1rle]OJ",
    "EON 3yhoc"]),
  (0x3220, [
    "0z&o]y/2_z2]:2l42k/2?Y2=+2jU2x82]K2vv2k]2~R2~;2vE2i)2[B2@o2nn2?.2w82?,2k>2f.2sD2REPRESENT ",
    "2eZ2@;2[H2jw2<D2a%2FESTIVAL 2<F2=?2;=0fYo];Y2KINDERGARTEN 2=l2rn1yH]Ky~d1@K2_qy~d1@K2]qy~d",
    "1@K2l0y~d1@K2kyy~d1@K2?4y~d1@K2>Ay~d1@K2jZy~d1@K0z,)0fYyH_qy/3_z3]:3l43k/3?Y3=+3jU3x82]q3y",
    "/3_z3]:3l43k/1ncrT2xW2]%2<V2vU2.y2?N2o!2fT2fD2rB2]k2.l2n(2rTaI2xWaI2]%aI2<VaI2vUaI2.yaI2?N",
    "aI2o!aI2fTaI2fDaI2rBaI2]kaI2.laI2n(aI1rle]CHAMKO 3JUEUI 1nco!_^0rl@b[80fYo]y/2_z2]:2l42k/2",
    "?Y2=+2jU2x82]K2vv2k]2~R2~;2vE2i)2[B2@o2nn2?.2w82?,2k>2f.2sD2SECRET 2uU2ko2SUITABLE 2EXCELL",
    "ENT 2:p2ATTENTION 2ITEM 2<F2COPY 2CORRECT 2n)2ey2t82sl2,2MEDICINE 2RELIGION 2@;2[H2jw2<D2a",
    "%2x31yH]q?Y3=+3jU3x82l03y/3_z3]:3l43k/3?Y3=+3jU3x82ky0o~]E[8lWJANUARY 4FEBRUARY 4MARCH 4AP",
    "RIL 4uj4JUNE 4JULY 4AUGUST 4SEPTEMBER 4OCTOBER 4NOVEMBER 4DECEMBER 0@Kn~1ERG 1kI0LIMITED L",
    "IABILITY )0fYqlaI2ow2_^2i/2yh2qN2rH2r:2qt2ra2=I2>~2@<2=s2?y2[e2]^2_52[*2^12wW2xU2yA2wx2xv2",
    "nM2n$2oc2no2oN2uC2vL2v|2u;2ve2#F2#=2#s2;c2<R2<(2;<2<t2~E2~j2~32~w0@Kj|w8REIWA 1APAATO 1ARU",
    "HUA 1ANPEA 1AARU 1ININGU 1INTI 1UON 1ESUKUUDO 1EEKAA 1ONSU 1OOMU 1KAIRI 1KARATTO 1KARORII ",
    "1GARON 1GANMA 1GIGA 1GINII 1KYURII 1GIRUDAA 1KIRO 1KIROGURAMU 1KIROMEETORU 1KIROWATTO 1GUR",
    "AMU 1GURAMUTON 1KURUZEIRO 1KUROONE 1KEESU 1KORUNA 1KOOPO 1SAIKURU 1SANTIIMU 1SIRINGU 1SENT",
    "I 1SENTO 1DAASU 1DESI 1DORU 1TON 1NANO 1NOTTO 1HAITU 1PAASENTO 1PAATU 1BAARERU 1PIASUTORU ",
    "1PIKURU 1PIKO 1BIRU 1HUARADDO 1HUIITO 1BUSSYERU 1HURAN 1HEKUTAARU 1.c1PENIHI 1HERUTU 1PENS",
    "U 1PEEZI 1BEETA 1POINTO 1BORUTO 1oV1PONDO 1HOORU 1HOON 1MAIKURO 1MAIRU 1MAHHA 1MARUKU 1MAN",
    "SYON 1MIKURON 1MIRI 1MIRIBAARU 1u!1MEGATON 1MEETORU 1YAADO 1YAARU 1YUAN 1RITTORU 1RIRA 1RU",
    "PII 1RUUBURU 1REMU 1RENTOGEN 1WATTO 0o~]E[8lWo7/S5y/5_z5]:5l45k/5?Y5=+5jU5x85]K5j95_n5]p5l",
    "55kv5?Z5=,5jV5x95_q5_u5_w5_v5_t0@KHPA 1gq1b%1cg1z01PC 1DM 2@L2gT1po1j|w8HEISEI 3SYOUWA 3TA",
    "ISYOU 3MEIZI 1CORPORATION 1ziAMPS 1wW1v|aI1uC1qN1KB 1ul1GB 1CAL 1KCAL 1PF 1NF 1v|k42lx1MG ",
    "1q_1ov1KHZ 1MHZ 1GHZ 1THZ 1v|r*1ML 1DL 1KL 1FM 1NM 1v|t:1vc1fn1r21vc@L1fn@L1t:@L1r2@L1vcgT",
    "1fngT1t:gT1r2gT1t:z2=G4@L1zi1rp1v[1GPA 1;i2z2=G4@L1PS 1NS 1v|=G1MS 1PV 1yQ1v||d1wE1KV 1wEu",
    "!1PW 1NW 1v|~D1wG1r^1wGu!1qMyw1t:yw1bD1BQ 1eo1eq1eRz2q_1fo1hA1GY 1nM1oa1pF1rW1r2(1KT 1LM 1",
    "LN 1LOG 1LX 1ul%1MIL 1MOL 1PH 1PM 1PPM 1PR 1SR 1[P1WB 1|dz2t:1aIz2t:0o~]E[8lWg+y/5_z5]:5l4",
    "5k/5?Y5=+5jU5x85]K5j95_n5]p5l55kv5?Z5=,5jV5x95_q5_u5_w5_v5_t5_s5TWENTY-SIX 5TWENTY-SEVEN 5",
    "TWENTY-EIGHT 5TWENTY-NINE 5]q5THIRTY-ONE 0@Kl?"]),
  (0x4DC0, [
    "0HEXAGRAM lW]9CREATIVE nw3RECEPTIVE i)2DIFFICULTY b#]9BEGINNING 2YOUTHFUL FOLLY 2~H2CONFLI",
    "CT 2]9ARMY 2oR^32%[<2TREADING 2.J2STANDSTILL 2FELLOWSHIP 2m;:12MODESTY 2ENTHUSIASM 2lO2~?y",
    "~]9DECAYED 2APPROACH 2CONTEMPLATION 2d0]<2mx2SPLITTING APART 2<H2INNOCENCE 2m;[<2v<f(2m;:m",
    "2]9ABYSMAL ~R3CLINGING k]2INFLUENCE 2DURATION 2RETREAT 2m;:a2PROGRESS 2g$ys]9s%2]9kb2zE2OB",
    "STRUCTION 2DELIVERANCE 2hV2pG2BREAKTHROUGH 2COMING ^1u#2l%^32PUSHING |02OPPRESSION 2]9WELL",
    " 2REVOLUTION 2]9el3AROUSING ]@3qvSTILL v:2DEVELOPMENT 2]9MARRYING MAIDEN 2ABUNDANCE 2]9WAN",
    "DERER 3GENTLE ~p3JOYOUS sM2DISPERSION 2LIMITATION 2pRTRUTH 2%:m2AFTER fv2BEFORE fv"]),
  (0xA000, [
    "0#k[7pl2pp2ow2IP 2IET 2IEX 2o/2IEP 2b#2cC2aI2b32UOX 2|T2UOP 2zS2zc2yh2y+2kM2i/2~|2dZ2BIX 2",
    "dN2BIP 2BIET 2BIEX 2BIE 2BIEP 2cq2BAX 2cQ2BAP 2BUOX 2BUO 2BUOP 2BOT 2d.2de2BOP 2BEX 2c<2BE",
    "P 2eI2BUX 2d&2BUP 2BURX 2eF2BYT 2BYX 2eN2BYP 2BYRX 2BYR 2.(2PIX 2.s2./2PIEX 2.w2PIEP 2PAT ",
    "2PAX 2zi2z?2PUOX 2PUO 2PUOP 2:42POX 2:K2:Z2:|2PUX 2:=2:]2PURX 2PUR 2:)2PYX 2PY 2PYP 2PYRX ",
    "2PYR 2BBIT 2BBIX 2cy2BBIP 2BBIET 2BBIEX 2BBIE 2BBIEP 2BBAT 2BBAX 2cw2BBAP 2BBUOX 2BBUO 2BB",
    "UOP 2BBOT 2BBOX 2cz2BBOP 2BBEX 2cx2BBEP 2c:2BBUX 2c.2BBUP 2BBURX 2BBUR 2BBYT 2BBYX 2BBY 2B",
    "BYP 2NBIT 2NBIX 2NBI 2NBIP 2NBIEX 2wl2NBIEP 2NBAT 2NBAX 2NBA 2NBAP 2NBOT 2NBOX 2NBO 2NBOP ",
    "2NBUT 2NBUX 2NBU 2NBUP 2NBURX 2NBUR 2NBYT 2NBYX 2NBY 2NBYP 2NBYRX 2NBYR 2HMIT 2HMIX 2HMI 2",
    "HMIP 2HMIEX 2HMIE 2HMIEP 2HMAT 2HMAX 2HMA 2HMAP 2HMUOX 2HMUO 2HMUOP 2HMOT 2HMOX 2oK2HMOP 2",
    "HMUT 2HMUX 2HMU 2HMUP 2HMURX 2HMUR 2HMYX 2HMY 2HMYP 2HMYRX 2HMYR 2va2MIX 2vL2MIP 2MIEX 2MI",
    "E 2MIEP 2MAT 2MAX 2uC2u22MUOT 2MUOX 2MUO 2MUOP 2MOT 2MOX 2ve2vw2MEX 2u;2MUT 2MUX 2v|2MUP 2",
    "MURX 2MUR 2MYT 2MYX 2wP2MYP 2FIT 2FIX 2kt2FIP 2FAT 2kh2k52FAP 2l72lM2FOP 2FUT 2FUX 2lm2FUP",
    " 2FURX 2ls2FYT 2FYX 2FY 2FYP 2VIT 2VIX 2|.2VIP 2|=2VIEX 2VIE 2VIEP 2VAT 2VAX 2|e2VAP 2VOT ",
    "2VOX 2|~2VOP 2VEX 2|t2VUT 2VUX 2|+2VUP 2VURX 2~A2VYT 2VYX 2~B2VYP 2VYRX 2VYR 2DIT 2DIX 2hm",
    "2DIP 2DIEX 2hv2DIEP 2g)2DAX 2gq2g[2DUOX 2DUO 2iX2DOX 2iI2DOP 2DEX 2hR2DEP 2DUT 2DUX 2in2DU",
    "P 2DURX 2DUR 2^M2TIX 2]^2^I2TIEX 2]~2TIEP 2[_2TAX 2[e2TAP 2_a2TUOX 2TUO 2TUOP 2^o2TOX 2^12",
    "^i2TEX 2[*2TEP 2TUT 2TUX 2_52_b2TURX 2_c2DDIT 2DDIX 2hN2DDIP 2DDIEX 2DDIE 2DDIEP 2DDAT 2DD",
    "AX 2hC2DDAP 2DDUOX 2DDUO 2DDUOP 2DDOT 2DDOX 2hO2DDOP 2DDEX 2hJ2DDEP 2DDUT 2DDUX 2hP2DDUP 2",
    "DDURX 2hQ2NDIT 2NDIX 2ws2NDIP 2NDIEX 2NDIE 2NDAT 2NDAX 2wm2wp2NDOT 2NDOX 2wt2NDOP 2NDEX 2w",
    "q2NDEP 2NDUT 2NDUX 2ww2NDUP 2NDURX 2NDUR 2HNIT 2HNIX 2HNI 2HNIP 2HNIET 2HNIEX 2HNIE 2HNIEP",
    " 2HNAT 2HNAX 2oM2HNAP 2HNUOX 2HNUO 2HNOT 2HNOX 2HNOP 2HNEX 2HNE 2HNEP 2HNUT 2NIT 2NIX 2xU2",
    "NIP 2NIEX 2NIE 2NIEP 2NAX 2wW2NAP 2NUOX 2NUO 2NUOP 2x>2NOX 2xv2NOP 2NEX 2wx2NEP 2yO2NUX 2y",
    "A2NUP 2NURX 2NUR 2HLIT 2HLIX 2oJ2HLIP 2HLIEX 2HLIE 2HLIEP 2HLAT 2HLAX 2oI2HLAP 2HLUOX 2HLU",
    "O 2HLUOP 2HLOX 2HLO 2HLOP 2HLEX 2HLE 2HLEP 2HLUT 2HLUX 2HLU 2HLUP 2HLURX 2HLUR 2HLYT 2HLYX",
    " 2HLY 2HLYP 2HLYRX 2HLYR 2LIT 2LIX 2s#2tC2LIET 2LIEX 2s!2LIEP 2LAT 2LAX 2r,2s02LUOT 2LUOX ",
    "2LUO 2LUOP 2LOT 2LOX 2tR2LOP 2LEX 2se2LEP 2LUT 2LUX 2tf2LUP 2LURX 2LUR 2LYT 2LYX 2tx2LYP 2",
    "LYRX 2tz2GIT 2GIX 2mb2GIP 2GIET 2GIEX 2GIE 2GIEP 2GAT 2GAX 2ly2l~2GUOT 2GUOX 2GUO 2GUOP 2m",
    "w2GOX 2mp2GOP 2GET 2GEX 2mF2mM2GUT 2GUX 2m/2GUP 2GURX 2nA2rS2KIX 2rH2rN2KIEX 2KIE 2KIEP 2K",
    "AT 2KAX 2qN2q62KUOX 2KUO 2r>2KOT 2KOX 2ra2KOP 2q=2KEX 2qt2KEP 2r[2KUX 2r:2KUP 2KURX 2r?2GG",
    "IT 2GGIX 2mV2GGIEX 2GGIE 2GGIEP 2GGAT 2GGAX 2mT2GGAP 2GGUOT 2GGUOX 2mZ2GGUOP 2GGOT 2GGOX 2",
    "mW2mX2GGET 2GGEX 2mU2GGEP 2GGUT 2GGUX 2mY2GGUP 2GGURX 2GGUR 2MGIEX 2MGIE 2MGAT 2MGAX 2MGA ",
    "2MGAP 2MGUOX 2MGUO 2MGUOP 2MGOT 2MGOX 2vJ2MGOP 2MGEX 2MGE 2MGEP 2MGUT 2MGUX 2MGU 2MGUP 2MG",
    "URX 2MGUR 2oo2HXIX 2HXI 2HXIP 2HXIET 2HXIEX 2HXIE 2HXIEP 2HXAT 2HXAX 2HXA 2HXAP 2HXUOT 2HX",
    "UOX 2oq2HXUOP 2HXOT 2HXOX 2HXO 2op2HXEX 2HXE 2HXEP 2NGIEX 2NGIE 2NGIEP 2NGAT 2NGAX 2w%2NGA",
    "P 2NGUOT 2NGUOX 2NGUO 2NGOT 2NGOX 2xN2xR2NGEX 2w)2NGEP 2oF2HIEX 2n%2nj2HAX 2nM2HAP 2HUOT 2",
    "HUOX 2HUO 2HUOP 2o52HOX 2oN2HOP 2HEX 2no2HEP 2WAT 2~Z2~E2~M2WUOX 2~#2WUOP 2WOX 2~w2WOP 2WE",
    "X 2~32WEP 2ZIT 2ZIX 2/32ZIP 2ZIEX 2ZIE 2ZIEP 2ZAT 2ZAX 2/B2ZAP 2ZUOX 2ZUO 2ZUOP 2/c2ZOX 2/",
    "a2ZOP 2ZEX 2/N2ZEP 2ZUT 2ZUX 2/d2/f2ZURX 2/g2ZYT 2ZYX 2/h2ZYP 2ZYRX 2ZYR 2CIT 2CIX 2fS2fW2",
    "CIET 2CIEX 2CIE 2CIEP 2ei2CAX 2eT2e92CUOX 2CUO "]),
  (0xA2BC, [
    "0#k[7gX2COT 2COX 2fo2COP 2CEX 2er2CEP 2ga2CUX 2gQ2gY2CURX 2CUR 2go2CYX 2gi2gk2CYRX 2CYR 2Z",
    "ZIT 2ZZIX 2/k2ZZIP 2/l2ZZIEX 2ZZIE 2ZZIEP 2ZZAT 2ZZAX 2/i2ZZAP 2ZZOX 2/m2ZZOP 2ZZEX 2/j2ZZ",
    "EP 2ZZUX 2/n2ZZUP 2ZZURX 2ZZUR 2ZZYT 2ZZYX 2ZZY 2ZZYP 2ZZYRX 2ZZYR 2NZIT 2NZIX 2NZI 2NZIP ",
    "2NZIEX 2NZIE 2NZIEP 2NZAT 2NZAX 2yf2NZAP 2NZUOX 2NZUO 2NZOX 2NZOP 2NZEX 2NZE 2NZUX 2NZU 2y",
    "g2NZURX 2NZUR 2NZYT 2NZYX 2NZY 2NZYP 2NZYRX 2NZYR 2SIT 2?Y2>~2SIP 2SIEX 2SIE 2SIEP 2=c2SAX",
    " 2=I2=72SUOX 2SUO 2SUOP 2?_2SOX 2?y2SOP 2SEX 2=s2SEP 2SUT 2SUX 2@<2SUP 2SURX 2[J2SYT 2SYX ",
    "2SY 2SYP 2SYRX 2SYR 2SSIT 2SSIX 2@42SSIP 2SSIEX 2SSIE 2SSIEP 2SSAT 2SSAX 2@T2SSAP 2SSOT 2S",
    "SOX 2@52SSOP 2SSEX 2@32SSEP 2SSUT 2SSUX 2@62SSUP 2SSYT 2SSYX 2SSY 2SSYP 2SSYRX 2SSYR 2ZHAT",
    " 2ZHAX 2/U2ZHAP 2ZHUOX 2ZHUO 2ZHUOP 2ZHOT 2ZHOX 2/02ZHOP 2ZHET 2ZHEX 2/W2ZHEP 2ZHUT 2ZHUX ",
    "2/12ZHUP 2ZHURX 2ZHUR 2ZHYT 2ZHYX 2ZHY 2ZHYP 2ZHYRX 2ZHYR 2e#2CHAX 2e<2CHAP 2CHUOT 2CHUOX ",
    "2CHUO 2CHUOP 2CHOT 2CHOX 2fI2CHOP 2CHET 2CHEX 2e/2CHEP 2CHUX 2fQ2CHUP 2CHURX 2CHUR 2CHYT 2",
    "CHYX 2CHY 2CHYP 2CHYRX 2CHYR 2RRAX 2</2RRUOX 2RRUO 2RROT 2RROX 2<%2RROP 2RRET 2RREX 2<!2RR",
    "EP 2RRUT 2RRUX 2RRU 2RRUP 2RRURX 2RRUR 2RRYT 2RRYX 2RRY 2RRYP 2RRYRX 2RRYR 2NRAT 2NRAX 2x#",
    "2NRAP 2NROX 2NRO 2NROP 2NRET 2NREX 2NRE 2NREP 2NRUT 2NRUX 2NRU 2NRUP 2NRURX 2NRUR 2NRYT 2N",
    "RYX 2NRY 2NRYP 2NRYRX 2NRYR 2>X2SHAX 2>F2SHAP 2SHUOX 2SHUO 2SHUOP 2SHOT 2SHOX 2>m2>r2>82SH",
    "EX 2>Z2SHEP 2SHUT 2SHUX 2>;2SHUP 2SHURX 2>=2SHYT 2SHYX 2>|2SHYP 2SHYRX 2SHYR 2;x2RAX 2;c2;",
    "w2RUOX 2RUO 2RUOP 2ROT 2ROX 2<t2ROP 2REX 2;<2REP 2RUT 2RUX 2<(2RUP 2RURX 2RUR 2RYT 2RYX 2=",
    "F2RYP 2RYRX 2RYR 2JIT 2JIX 2p~2JIP 2JIET 2JIEX 2JIE 2JIEP 2JUOT 2JUOX 2JUO 2JUOP 2qH2JOX 2",
    "qA2JOP 2JUT 2JUX 2qJ2JUP 2JURX 2JUR 2JYT 2JYX 2JY 2JYP 2JYRX 2JYR 2QIT 2QIX 2;H2QIP 2QIET ",
    "2QIEX 2QIE 2QIEP 2QUOT 2QUOX 2;22QUOP 2;O2QOX 2;K2QOP 2QUT 2QUX 2;P2QUP 2QURX 2QUR 2QYT 2Q",
    "YX 2QY 2QYP 2QYRX 2QYR 2JJIT 2JJIX 2p%2JJIP 2JJIET 2JJIEX 2p&2JJIEP 2JJUOX 2JJUO 2JJUOP 2J",
    "JOT 2JJOX 2p(2JJOP 2p*2JJUX 2p)2JJUP 2JJURX 2JJUR 2JJYT 2JJYX 2p+2JJYP 2NJIT 2NJIX 2xk2NJI",
    "P 2NJIET 2NJIEX 2NJIE 2NJIEP 2NJUOX 2NJUO 2NJOT 2NJOX 2xl2NJOP 2NJUX 2xn2NJUP 2NJURX 2NJUR",
    " 2NJYT 2NJYX 2NJY 2NJYP 2NJYRX 2NJYR 2yb2NYIX 2y72y92NYIET 2NYIEX 2NYIE 2NYIEP 2NYUOX 2NYU",
    "O 2NYUOP 2NYOT 2NYOX 2yc2yd2NYUT 2NYUX 2ye2NYUP 2XIT 2XIX 2~*2XIP 2XIET 2XIEX 2XIE 2XIEP 2",
    "XUOX 2XUO 2XOT 2XOX 2~+2XOP 2XYT 2XYX 2XY 2XYP 2XYRX 2XYR 2#p2YIX 2#k2YIP 2YIET 2YIEX 2#m2",
    "YIEP 2YUOT 2YUOX 2YUO 2#^2#:2YOX 2#s2YOP 2#~2YUX 2#=2YUP 2YURX 2YUR 2YYT 2YYX 2#+2YYP 2YYR",
    "X 2YYR "]),
  (0xA490, [
    "0#k;k;O2s#2rS2y92gk2@42mX2mM2vL2oo2tz2c:2vw2#s2:|2oq2[_2ly2/f2go2hQ2eF2mZ2yd2_52y+2p*2/c2:",
    ")2oK2#p2~A2>|2|t2/B2qA2yg2p+2mw2p&2~w2in2>=2s!2gi2gX2fW2op2>X2/g2>r2e/2/l2wl2qt"]),
  (0xA4D0, [
    "0tH$cQ2zi2.f2gq2[e2]32ly2qN2q|2pw2eT2e<2i;2_A2_F2uC2wW2r,2=I2/U2/B2w%2nM2~%2n#2k52~E2>F2#F",
    "2m02aI2ad2i/2kF2ow2yh2_^2_&2_+2yp2^5wQ]^3wW:K3wQgj4de4wW4JEU 1:[ft2lo@q0VAI [7jF2EEN 2nz2~",
    "62WEEN 2.O2BHEE 2c]2uq2rr2MGBEE 2l,2kk2|q2]B2]a2DHEE 2DHHEE 2si2;~2hW2wr2=y2>02/O2/X2eu2p?",
    "2xi2#32qu2xB2mH2u^2wz2y32ow2pF2n$2n,2~j2WIN 2.s2BHI 2dN2ut2rs2MGBI 2mA2kt2|.2]^2]j2DHI 2DH",
    "HI 2s#2<R2hm2ws2>~2>b2/32/Y2fS2p~2xk2#k2rH2xE2mb2vL2xU2y72aI2bH2NGAN 2nM2nY2~E2WAN 2zi2dI2",
    "cQ2um2rp2KPAN 2vI2l*2k52|e2[e2]32hj2DHHA 2r,2;c2gq2wm2=I2>F2/B2/U2eT2pw2xd2#F2qN2q32w+2ly2",
    "uC2wW2yZ2y(2OON 2oW2~:2WOON 2:Y2BHOO 2dn2uw2ru2MGBOO 2mC2lR2|%2^g2]v2DHOO 2DHHOO 2t12<<2iV",
    "2wv2?[2>q2/b2ZHOO 2f~2qG2xm2#z2ri2xG2GOO 2vt2xy2NYOO 2_^2|I2oc2oh2~|2WUN 2:=2BHU 2d&2ux2rv",
    "2MGBU 2mD2lm2|+2_52]=2DHU 2DHHU 2tf2<(2in2ww2@<2>;2/d2/12gQ2qJ2xn2#=2r:2xH2m/2v|2yA2ye2yh2",
    "y~2xQ2oN2oV2~w2~.2:K2dM2de2uv2rt2MGBO 2mB2GBON 2lM2|~2^12]t2hl2DHHO 2tR2<t2iI2wt2?y2>m2/a2",
    "/02fo2qA2xl2#s2ra2xF2mp2ve2xv2yc2i/2jk2w*2no2n=2~32WEN 2.I2dK2c<2up2rq2KPEN 2MGBE 2l+2GBEN",
    " 2ki2|n2[*2]92hk2DHHE 2se2;<2hR2wq2=s2>Z2/N2/W2er2p>2xh2#12qt2xA2xC2mF2GEN 2u;2wx2y22w$2sy",
    "1ft1lo@q1;Yu81[7wuk53qN3?[1[8FEENG 2KEENG 2TING 2x42BANG 2k62[h2g?2DOONG 2KUNG 2TONG 2DO-O",
    " 2JONG 1h:/S2y/2_z2]:2l42k/2?Y2=+2jU2x81[7wuuC3iI"]),
  (0xA640, [
    "0gn($/Q1%$/Q1($i>1%$i>1($<Ki<1%$<Ki<1($p71%$p71($iE1%$iE1($vq|B1%$vq|B1($d/y]1%$d/y]1($w|#",
    "a1%$w|#a1($#c!cT#a1%$#c!cT#a1($p9#V1%$p9#V1($<K#=1%$<K#=1($p9aI1%$p9aI1($fftJ#|1%$fftJ#|1(",
    "$d8#|1%$d8#|1($p9fftJ#|1%$p9fftJ#|1($#r1%$#r1($<K_D1%$<K_D1($?;hR1%$?;hR1($?;j41%$?;j41($?",
    ";je1%$?;je1($vmyh1%$vmyh1($dVyh1%$dVyh1($i1vmyh1%$i1vmyh1$MULTIOCULAR yh0fsgnVZMET 2]Kv3)2",
    "oiv3)2]yv3)0SLAVONIC b_0fsgn$|Co/3ow3#k3_^3ng)3#c3?;)3y]2qp2.H0gnqp1.H1($iy1%$iy1($i|1%$i|",
    "1($/21%$/21($ep1%$ep1($i~1%$i~1($[*!vQoX1%$[*!vQoX1($_l1%$_l1($_O1%$_O1($_L1%$_L1($[&1%$[&",
    "1($on1%$on1($>@1%$>@1($i1yh1%$i1yh1($gJyh1%$gJyh0vh$gnng)3?;)0fsgn$jG3p9i/0cc$aI2qN2_^2r:2",
    "jF2;~2[n2yh2y72ow2r,2zi2<i2<U2sj2u_2[h2wn2xe2t:2[O2v|2>e2>~2>92=*2r)2q=2yC2yA2xo2#.2>;2#_2",
    "#F2x/2q@2.e2xi2x)2:@2~~2.O2kk2<(2tf2vL2xU2<I2;m2q.2xM2w+2w%2>m2:?2lm2lP2~E2wW2s#2.s2t52ra2",
    "ur2;)2u)2uC2]^2rH2ve2un2]T2rp2]K2x,2=Z2FAAMAE 2KOVUU 2KOGHOM 1fsu8KOQNDON 3TUKWENTIS 1xf1l",
    "o@q1fr1ft1=_1;Yu8"]),
  (0xA700, [
    "0vh$fH^5#o.~4#R.~4#o>R4#R>R4#o;P4#R;P4#o<(4#R<(2kRi0^5cg2n)i0^5cg2vOi0^5cg2t8i0^5cg2kSi0^5",
    "cg2kRi0sp^5cg2n)i0sp^5cg2vOi0sp^5cg2t8i0sp^5cg2kSi0sp^5cg2kRsp^5cg2n)sp^5cg2vOsp^5cg2t8sp^",
    "5cg2kSsp^5cg2iX|vcg3?g3o0cg2tb,f&bN2;q|U+3i7+3kNu83p5kNu82t8p5kNu82@x*n)^54t8^50s7($jLa@1%",
    "$jLa@1($jLav1%$jLav1($n>1%$n>1($_]1%$_]1($^>1%$^>1($gR1%$gR1($gR!ft1%$gR!ft1$%(k44=G1($aR1",
    "%$aR1($b21%$b21($b%1%$b%1($b)1%$b)1($b)!o0cg1%$b)!o0cg1($cE1%$cE1($<KeR!iX1%$<KeR!iX1($qM!",
    "@z1%$qM!@z1($qM!ho@z1%$qM!ho@z1($qM!@z*ho@z1%$qM!@z*ho@z1($d!r*1%$d!r*1($r*!n)@z1%$r*!n)@z",
    "1($yh!tY@zz71%$yh!tY@zz71($yh!t21%$yh!t21($y(1%$y(1($zh!@z]<hb1%$zh!@z]<hb1($zh!lG1%$zh!lG",
    "1($zh!@Q[t1%$zh!@Q[t1($:*!@z]<hb1%$:*!@z]<hb1($:*!ho@z1%$:*!ho@z1($;a<_1%$;a<_1($<,<_1%$<,",
    "<_1($|d!ho@z1%$|d!ho@z1($~B1%$~B1($|^/A1%$|^/A1($]w!@z1%$]w!@z1($]w!@z]<hb1%$]w!@z]<hb1($|",
    "s1%$|s1($j+1%$j+1($pd1%$pd1($fz1%$fz0vh$|70s7%$DUM 3tn3MUM 3NUM 3<,1$%(<,1%$_93|F1($pWgp1%",
    "$pWgp1($pWk41%$pWk41($pWlx3_fpWlx1%$_fpWlx1($_fr*1%$_fr*1($pW;a1%$pW;a1($pW=G1%$pW=G1($pW[",
    "d1%$pW[d0vh$t8f2a22fr2>uj@)0s7($=V1%$=V1($_fnL1%$r*!<GoX*c(1$SINOLOGICAL iX1($wT!hb1%$wT!h",
    "b1($eR!cg1%$eR!cg5zuoX3nL!zuoX1($cL!lG1%$cL!lG1($k4!@z1%$k4!@z1($|$ad1%$|$ad1($|$yp1%$|$yp",
    "1($|$_&1%$|$_&1($lx!yk@z1%$lx!yk@z1($qM!yk@z1%$qM!yk@z1($wT!yk@z1%$wT!yk@z1($;a!yk@z1%$;a!",
    "yk@z1($=G!yk@z1%$=G!yk@z1($nL!oX3<Ky,i/3=rlx3r*!c(3%(ow1$%(:*1($_fqM4[d3pu!gK3fB3dE1%$dE1(",
    "$y]1%$y]1($_^!@z1%$_^!@z1($mnaI1%$mnaI1($mnow1%$mnow1($mn_^1%$mn_^1($y=:Uyh1%$y=:Uyh1($bP~",
    "D1%$bP~D1($eR!zuoX3=G!oX3/A!zuoX3gp!>u@zz71%$gp!>u@zz71($=G!>u@zz71%$=G!>u@zz7"]),
  (0xA7D0, ["0s7($ffpWlx1%$ffpWlx"]),
  (0xA7D3, ["0s7%$i1]w"]),
  (0xA7D5, ["0s7%$i1~!1($vQ=p=G1%$vQ=p=G1($>)=G1%$>)=G"]),
  (0xA7F2, [
    "0vh$(eR3k43:*0s7($<KnTnL1%$<KnTnL1j=$>$ow0vh$(nL!@z2%s$yp0s7$%(_ft:1j=$<Kk44zh3p5t:3owtZ3b",
    "ot:0SYLOTI NAGRI $aI3ow2)DVISVARA 2$_^3i/3yh2)ni2$ra3rD3mp3m82)b12$fo3fI3qA3JHO 3_23_03hO3",
    "hM3^13]t3iI3hl3xv3:K3.n3de3dM3ve3<t3tR3<%3?y3oN2|))aI4ow4_^4i/4y(2POETRY u93ua3ub3MARK-4 2",
    ")a,ni"]),
  (0xA830, ["0x;pJl8y/;U4nT3]:;V3y/?04jW3]:?12;Uu82:Au82=Cu82QUANTITY u8"]),
  (0xA840, [
    "0PHAGS-PA $qN2q|2ly2w%2eT2e<2pw2yZ2[e2]32gq2wW2zi2.f2cQ2uC2_A2_F2i;2~E2/U2/B2%aI2#F2;c2r,2",
    ">F2=I2nM2aI2ow2_^2i/2yh2:+2~%2k52mT2jF1@?$~E3#F1$_Q2_W2hC2xt2a,#F2VOICELESS >F2|/nM2ASPIRA",
    "TED k51@?$;c1SUPERFIXED $;c1$e71?Jnpu81i1npu81u8>J2i1>J"]),
  (0xA880, [
    "0=f)b12|]1$aI2aR2ow2o)2_^2|a2|#;a3<#3r*3tO2i/2jF2au2yh2y(2b%2qN2q|2ly2m02w%2eT2e<2pw2p^2yZ",
    "2_Q2_W2hC2hK2xt2[e2]32gq2hj2wW2zi2.f2cQ2dI2uC2#F2;c2r,2|e2>F2@T2=I2nM2tP1f=)HAARU 1|))aR3o",
    "w3o)3_^3|a3|#;a4<#4r*4tO3i/3jF3au3yh3y(3b%1)|[2e7"]),
  (0xA8CE, ["0=fg>1i1g>1h:/S2y/2_z2]:2l42k/2?Y2=+2jU2x8"]),
  (0xA8E0, [
    "0fsheh:/S3y/3_z3]:3l43k/3?Y3=+3jU3x82$aI3_^3qN3wW3zi3;c3|.2)b*0he)?%e72e7|[2i1e7|[2e7_z3]:",
    "3b*2PUSHPIKA 1l~k;1ec1ns1)>/1JAIN y[1$cE1|))cE0qrs#h:/S3y/3_z3]:3l43k/3?Y3=+3jU3x82$qN3q|3",
    "ly3w%3=I3>F3/B3yZ3[e3ob3wW3zi3.f3uC3gq3cQ3;c3#F3r,3~E3]33nM3|e3eT3aI3yp3ow3y(2|)_&3i/3_^3j",
    "F3yh2^5:F3CALYA 4:F2)ge3SHYA 0;$$qN2ly2w%2[e2gq2wW2zi2cQ2uC2eT2pw2yZ2=I2;c2r,2#F2~E2nM2um2",
    "w+2wm2NYJA 2aI1|))ow3_^3i/3au3yh3b%3kF3i$1f=)w$3wT3;a3nL1|["]),
  (0xA95F, [
    "0;$=xu80ncfKTIKEUT-MIEUM 2])2]+2]&2<Z2<82<a2RIEUL-SSANGTIKEUT 2<12<52RIEUL-SSANGPIEUP 2<X2",
    "<72RIEUL-CIEUC 2<Y2vV2MIEUM-TIKEUT 2vY2PIEUP-SIOS-THIEUTH 2PIEUP-KHIEUKH 2.:2SSANGSIOS-PIE",
    "UP 2IEUNG-RIEUL 2IEUNG-HIEUH 2SSANGCIEUC-HIEUH 2SSANGTHIEUTH 2PHIEUPH-HIEUH 2HIEUH-SIOS 2S",
    "SANGYEORINHIEUH "]),
  (0xA980, [
    "0p;)PANYANGGA 2es2LAYAR 2WIGNYAN 1$aI2owKAWI 32o)2_^2ziCEREK 2w%LELET 4RASWADI 2i/2au2yh2q",
    "N3=b3v+2ly3v+2w%2eT3v+2pw2yZv+2pwuP2yZ2_Q3uP2hC3uP2wWv+2[e3v+2gq3uP2wW2zi3v+2cQ3v+2uC2#F2;",
    "c3AGUNG 2r,2~E2=Iv+3uP32nM1)esTELU 1|))TARUNG 3TOLONG 3WULU 4MELIK 3@)4MENDUT 3[y3DIRGA MU",
    "RE 3.Z1f=)KERET 3PENGKAL 3eX1PANGKON 1sl<B1,<B1znANDAP 2MADYA 2LUHUR 2~r2PANGKAT 2LINGSA 2",
    "LUNGSI 2aa3aa2.&1_fzn.&"]),
  (0xA9CF, ["0p;PANGRANGKEP 1h:/S2y/2_z2]:2l42k/2?Y2=+2jU2x8"]),
  (0xA9DE, [
    "0p;znTIRTA TUMETES 2ISEN-ISEN 0wR$>Qm03e<3p^3xt3dI1)>Q=g1vh$>Q;|1$[ssIyZ4k54ly4m04pw4p^4hC",
    "4hK4xt1[ssIh:/S4y/4_z4]:4l44k/4?Y4=+4jU4x81$[ssItP4gq4hj4cQ4dI"]),
  (0xAA00, [
    "0e@$aI2ow2_^2i/2au2yh2qN2q|2ly2m02NGUE 2w%2e<2CHHA 2pw2p^2NHUE 2xT2NHJA 2[e2]32gq2hj2NUE 2",
    "wW2hC2zi2PPA 2.f2cQ2dI2MUE 2uC2cw2#F2;c2r,2|e2@T2=I2nM1|))aR3ow3o)3jS3_^3yp3yh3au3b%3_&1f=",
    ")#F3;c3r,3~E"]),
  (0xAA40, ["0e@$k=qM3lx3w$1f=)k=w$1$k=e;3[d3wT3zh3#D3;a3r*3@S1f=)k=t:4nL"]),
  (0xAA50, ["0e@h:/S2y/2_z2]:2l42k/2?Y2=+2jU2x8"]),
  (0xAA5C, [
    "0e@:[@D2g>2i1g>2^~g>0wR$q$ly3eT3e<3pw3p^3yZ3_Q3_W3hC3hK3hj3wW3=I3nM3n#3k51vh$q$;|1$q$~%3/B",
    "3;c1tWq$yj3QN 3HM 1[8aykN3y/3_z1$ay;c1)PAO qf^52[ssI^74^a1$>@zve<4>F0[s|=$t8ra3n)ra3t8rD3n",
    ")rD3t8q,3n)q,3t8mp3n)mp3t8xN3n)xN3t8fo3n)fo3t8fI3n)fI3t8?y3n)?y3t8yc3n)yc3t8iI3n)iI3t8^13n",
    ")^13t8]t3n)]t3t8xv3n)xv3t8de3n)de3t8:K3n):K3t8.n3n).n3t8lM3n)lM3t8ve3n)ve3t8#s3n)#s3t8<t3n",
    ")<t3t8tR3n)tR3t8|~3n)|~3t8oN3n)oN3t8yh3n)yh2uQq42|)aR3ow3_&3_^3i/3yh2uQKHIT 2|)ox3UEA 3_~3",
    "b&3cE3bH3bD2^5uQj24yE4]t4SONG "]),
  (0xAADB, [
    "0[s|=[8rg3yE3=X3oNHOI 3rcrc0u/uk$i/3yh3e<3yZ3_Q3_W3hC3hK3xt3>F3@T2|))o)4|a4aS4b%4AAU 2CHEI",
    "KHAN 2AHANG KHUDAM 2bQ2[7;,u82~>;,u82|))|]2|["]),
  (0xAB01, ["0kD[7TTHU 2_Z2_X2TTHEE 2_Y2_0"]),
  (0xAB09, ["0kD[7DDHU 2DDHI 2hL2DDHEE 2DDHE 2hM"]),
  (0xAB11, ["0kD[7i_2i[2DZAA 2i=2i<2i^"]),
  (0xAB20, ["0kD[7CCHHA 2CCHHU 2CCHHI 2CCHHAA 2CCHHEE 2CCHHE 2CCHHO "]),
  (0xAB28, ["0kD[7cw2c.2cy2BBAA 2BBEE 2cx2cz"]),
  (0xAB30, [
    "0s7%$cja*3aIREVERSED-SCHWA 3d5i/3cji/3i/!lG3szk43=rlx!gK3r*!p5sc=G5i1vQ^C5vQ<k3t:!gK3wT!gK",
    "3jq!gK3d5yh5!@z3y,yh!@z3p5yp3_fyp!@z6o0@z4yhOPEN-O 6!@z3STIRRUP ;a1$%(;a!,ss1%$;a~vna3i1;a",
    "3;a!gK3i1;a!gK3=r;a5!<k3cnj&3_^!>u,ss4cg!>u,ss3_,3_f_,3_^!sloX3fB4!t8,<k6sl=%3~$!t8,<k5tYs",
    "lss8*t8,<k8!=%3#D!>u,ss0vhd^!p5d^1$%n>3r*!p5sc=G5vQ^C3_^!sloX0s7%$SAKHA #V3p9i/3y,yp3|T3p5",
    "a*0m>$%(y]0s7%$i:h=!<GoX3^,h=!<GoX3_f;a!vQ^C0vh$%_f~D2sl[m2,[m"]),
  (0xAB70, [
    "0e*%$aI3i/3ow3yh3_^3|d3ly3qN3mF3mb3mp3m/3nE3nM3no3n$3oN3oc3ol3r,3se3s#3tR3tf3tp3uC3u;3vL3v",
    "e3v|3wW3oM3w53wx3xU3xv3yA3yQ3;Q3;W3;Z3;23;53;63=I3=G3=s3>~3?y3@<3[P3gq3[e3hR3[*3hm3]^3iI3i",
    "n3iv3iH3^R3^S3^X3^Y3^Z3^03_A3_D3_J3_K3_M3_N3~E3~33~j3~w3~|3~/3#F0u/uk$rd3=X3sH3va3zi3wW3CH",
    "IL 3^B3KHOU 3xS3THOU 3WAI 3#R3HUK 3|I3ow3PHAM 3ATIYA 3GOK 3JHAM 3RAI 3cQ3p!3DIL 3GHOU 3DHO",
    "U 3BHAM 3rdt03sHt03vat03zit03wWt03^Bt03xSt03owt02|))ONAP 4INAP 4ANAP 4YENAP 4SOUNAP 4UNAP ",
    "4CHEINAP 4yM2CHEIKHEI 2tnpr2APUN pr"]),
  (0xABF0, ["0u/ukh:/S3y/3_z3]:3l43k/3?Y3=+3jU3x8"]),
  (0xD7B0, [
    "0ncqKO-YEO 2O-O-I 2YO-A 2YO-AE 2YO-EO 2U-YEO 2U-I-I 2YU-AE 2YU-O 2EU-A 2EU-EO 2EU-E 2EU-O ",
    "2I-YA-O 2I-YAE 2I-YEO 2I-YE 2I-O-I 2I-YO 2I-YU 2I-I 2ARAEA-A 2ARAEA-E "]),
  (0xD7CB, [
    "0ncqFNIEUN-RIEUL 2NIEUN-CHIEUCH 2@22SSANGTIKEUT-PIEUP 2])2]+2TIKEUT-SIOS-KIYEOK 2]&2TIKEUT",
    "-CHIEUCH 2TIKEUT-THIEUTH 2<82RIEUL-KIYEOK-HIEUH 2SSANGRIEUL-KHIEUKH 2RIEUL-MIEUM-HIEUH 2RI",
    "EUL-PIEUP-TIKEUT 2RIEUL-PIEUP-PHIEUPH 2RIEUL-YESIEUNG 2RIEUL-YEORINHIEUH-HIEUH 2qd2MIEUM-N",
    "IEUN 2MIEUM-SSANGNIEUN 2SSANGMIEUM 2MIEUM-PIEUP-SIOS 2MIEUM-CIEUC 2.[2PIEUP-RIEUL-PHIEUPH ",
    "2PIEUP-MIEUM 2@Z2.?2..2.z2?S2SIOS-KAPYEOUNPIEUP 2SSANGSIOS-KIYEOK 2SSANGSIOS-TIKEUT 2SIOS-",
    "PANSIOS 2?P2?O2?W2?Q2PANSIOS-PIEUP 2PANSIOS-KAPYEOUNPIEUP 2YESIEUNG-MIEUM 2YESIEUNG-HIEUH ",
    "2CIEUC-PIEUP 2CIEUC-SSANGPIEUP 2@U2PHIEUPH-SIOS 2PHIEUPH-THIEUTH "]),
  (0xFB00, ["0s7%s$FF 3kt3FL 3FFI 3FFL 3tY=G[d3@8"]),
  (0xFB13, ["0bv%s$u)x|4jC4pP3|zx|3u)~)"]),
  (0xFB1D, [
    "0ny$#w!oE1:MJUDEO-SPANISH VARIKA 1s$#l#w#w.B1$bBcH2~ka@3g:3no3qW3sS3k=u%3<C3[#2bB:G)2>h!>h",
    "iX4?IiX4gv*>hiX6?IiX2a@!.B4;D4u32dD!gv2mf!gv2g:!gv2no!u32|m!gv2/L!gv"]),
  (0xFB38, ["0ny$]T!gv2#w!gv2k=qW!gv2qW!gv2sS!gv"]),
  (0xFB3E, ["0ny$u%!gv"]),
  (0xFB40, ["0ny$yL!gv2=0!gv"]),
  (0xFB43, ["0ny$k=.I!gv2.I!gv"]),
  (0xFB46, [
    "0ny$_B!gv2;L!gv2<C!gv2>h!gv2[#!gv2|m!oQ2dD!;n2qW!;n2.I!;n1s$a@sS0bi$a@~Pph&4k=&2c^ph&3k=&3",
    "pQ&3u@&2.Pph&3k=&3pQ&3u@&2c/ph&3k=&3pQ&3u@&2_Vph&3k=&3pQ&3u@&2]Dph&3k=&3pQ&3u@&2_Uph&3k=&3",
    "pQ&3u@&2|rph&3k=&3pQ&3u@&2.Qph&3k=&3pQ&3u@&2izph&3k=&3pQ&3u@&2y4ph&3k=&3pQ&3u@&2[(ph&3k=&3",
    "pQ&3u@&2[)ph&3k=&3pQ&3u@&2hEph&3k=&2gxph&3k=&2iqph&3k=&2hFph&3k=&2p]ph&3k=&2<$ph&3k=&2qxph",
    "&3k=&3pQ&3u@&2l=ph&3k=&3pQ&3u@&2m&ph&3k=&3pQ&3u@&2xOph&3k=&3pQ&3u@&2xzmaph&4k=&2<rph&3k=&3",
    "pQ&3u@&2n:!#4aZph&6k=&3mqph&4k=&4pQ&4u@&3iJph&4k=&4pQ&4u@&2#4ckph&4k=&4!nXaZph&7k=&1[8iXaZ",
    "3c&2_ziZaZ4c&2]:iZaZ4c&4:Pi9aZ6c&2l4iZaZ4c&2i1|vcgc&2_ziZ|waZ5c&2<k2%[raZ4c&2~PaZ"]),
  (0xFBD3, [
    "0bi$w$ph&3k=&3pQ&3u@&2_^ph&3k=&2ypph&3k=&2#=ph&3k=&2_^!nXaZph&2|nph&3k=&2rOypph&4k=&3#=ph&",
    "4k=&2i/ph&3k=&3pQ&3u@&2|AKAZAKH rOa@uSpQ&7u@&1s$#4!nXaZ!a@ph&8k=&7adph&8k=&7~Xph&8k=&7_^ph",
    "&8k=&7ypph&8k=&7#=ph&8k=&7i/ph&8k=&8pQ&2|ArO#4!nXaZ!a@uSph&9a@uSk=&9a@uSpQ&1$kd#4ph&4k=&4p",
    "Q&4u@&1s$#4!nXaZ!p@ph&7nPph&7u~ph&7a@uSph&7#4ph&2c#!p@ph&4nPph&4q#ph&4u~ph&4a@uSph&4#4ph&2",
    "]C!p@ph&4nPph&4q#ph&4u~ph&4a@uSph&4#4ph&2]b!p@ph&4u~ph&4a@uSph&4#4ph&2p@!nPph&4u~ph&2nP!p@",
    "ph&4u~ph&2q#!p@ph&4nPph&4u~ph&2=z!p@ph&4nPph&4q#ph&4u~ph&2=K!nPph&4u~ph&2gt!p@ph&4nPph&4q#",
    "ph&4u~ph&2[r!nPph&4u~ph&2/F!u~ph&2av!p@ph&4u~ph&2m3!p@ph&4u~ph&2km!p@ph&4nPph&4q#ph&4u~ph&",
    "4a@uSph&4#4ph&2;B!nPph&4u~ph&4a@uSph&4#4ph&2qW!a@ph&4p@ph&4nPph&4q#ph&4sPph&4u~ph&4a@uSph&",
    "4#4ph&2sP!p@ph&4nPph&4q#ph&4u~ph&4a@uSph&4#4ph&2u~!p@ph&4nPph&4q#ph&4u~ph&4a@uSph&4#4ph&2x",
    "z!p@ph&4nPph&4q#ph&4u~ph&4a@uSph&4#4ph&2n:!p@ph&4u~ph&4a@uSph&4#4ph&2#4!p@ph&4nPph&4q#ph&4",
    "u~ph&4a@uSph&4#4ph&2]6![Fa@ph&2;!![Fa@ph&2a@uS![Fa@ph&2>K!g=ph&4qkph&4keph&4g<ph&4qjph&4[F",
    "a@ph&2#4!nXaZ!;!k=&7/Gk=&7u~k=&7xzk=&7a@uSk=&7#4k=&2c#!;!k=&4/Gk=&4u~k=&4xzk=&4a@uSk=&4#4k",
    "=&2]C!;!k=&4/Gk=&4u~k=&4xzk=&4a@uSk=&4#4k=&2]b!;!k=&4/Gk=&4u~k=&4xzk=&4a@uSk=&4#4k=&2km!a@",
    "uSk=&4#4k=&2;B!a@uSk=&4#4k=&2qW!a@k=&4sPk=&4u~k=&4a@uSk=&4#4k=&2sP!u~k=&4a@uSk=&4#4k=&2u~!",
    "a@k=&4u~k=&2xz!;!k=&4/Gk=&4u~k=&4xzk=&4a@uSk=&4#4k=&2a@uS![Fa@k=&2#4!;!k=&4/Gk=&4u~k=&4xzk",
    "=&4a@uSk=&4#4k=&4nXaZ!p@pQ&7nPpQ&7q#pQ&7u~pQ&7n:pQ&2c#!p@pQ&4nPpQ&4q#pQ&4u~pQ&4n:pQ&2]C!p@",
    "pQ&4nPpQ&4q#pQ&4u~pQ&4n:pQ&2]b!u~pQ&2p@!nPpQ&4u~pQ&2nP!p@pQ&4u~pQ&2q#!p@pQ&4u~pQ&2=z!p@pQ&",
    "4nPpQ&4q#pQ&4u~pQ&2=K!nPpQ&4q#pQ&4u~pQ&2gt!p@pQ&4nPpQ&4q#pQ&4u~pQ&2[r!nPpQ&2/F!u~pQ&2av!p@",
    "pQ&4u~pQ&2m3!p@pQ&4u~pQ&2km!p@pQ&4nPpQ&4q#pQ&4u~pQ&2;B!nPpQ&4u~pQ&2qW!p@pQ&4nPpQ&4q#pQ&4sP",
    "pQ&4u~pQ&2sP!p@pQ&4nPpQ&4q#pQ&4u~pQ&4n:pQ&2u~!p@pQ&4nPpQ&4q#pQ&4u~pQ&2xz!p@pQ&4nPpQ&4q#pQ&",
    "4u~pQ&4n:pQ&2n:!p@pQ&4u~pQ&4[Fa@pQ&2#4!p@pQ&4nPpQ&4q#pQ&4u~pQ&4n:pQ&4nXaZ!u~u@&7n:u@&2c#!u",
    "~u@&4n:u@&2]C!u~u@&4n:u@&2]b!u~u@&4n:u@&2=z!u~u@&4n:u@&2>1!u~u@&4n:u@&2qW!sPu@&4u~u@&2sP!u",
    "~u@&2xz!u~u@&4n:u@&2#4!u~u@&4n:u@&2>K!keu@&4g<u@&4qju@&2[r!a@uSph&4#4ph&2av!a@uSph&4#4ph&2",
    "m3!a@uSph&4#4ph&2=z!a@uSph&4#4ph&2>1!a@uSph&4#4ph&2nP!a@uSph&4#4ph&2p@!a@uSph&4#4ph&2q#!a@",
    "uSph&4#4ph&2=K!a@uSph&4#4ph&2gt!a@uSph&4#4ph&2>1!p@ph&4nPph&4q#ph&4u~ph&4;!ph&2=z!;!ph&2=K",
    "!;!ph&2gt!;!ph&2[r!a@uSk=&4#4k=&2av!a@uSk=&4#4k=&2m3!a@uSk=&4#4k=&2=z!a@uSk=&4#4k=&2>1!a@u",
    "Sk=&4#4k=&2nP!a@uSk=&4#4k=&2p@!a@uSk=&4#4k=&2q#!a@uSk=&4#4k=&2=K!a@uSk=&4#4k=&2gt!a@uSk=&4",
    "#4k=&2>1!p@k=&4nPk=&4q#k=&4u~k=&4;!k=&2=z!;!k=&2=K!;!k=&2gt!;!k=&2>1!p@pQ&4nPpQ&4q#pQ&4u~p",
    "Q&2=z!n:pQ&2>1!n:pQ&2[r!u~pQ&2=z!p@u@&4nPu@&4q#u@&2>1!p@u@&4nPu@&4q#u@&2[r!u~u@&2/F!u~u@&2",
    "a@!kfk=&5ph&0ORNATE slz%1,z%0bis$RAHIMAHU a!2;jALLAAHU ANH 4ANHAA 4ANHUM 4ANHUMAA 4ANHUNNA",
    " 2SALLALLAAHU a>WA-AALIH 2a>b<2ALAYHIM b<2ALAYHIMAA b<2a>AS-SALAATU WAS-SALAAM 2QUDDISA SI",
    "RRAH 2SALLALLAHU a>WAAALIHEE WA-SALLAM 2ALAYHAA b<2TABAARAKA WA-TAAALAA 2RAHIMAHUM a!2]C!p",
    "@!u~pQ&4nP!p@k=&7pQ&6u~pQ&4q#!u~pQ&4u~!p@pQ&6nPpQ&6q#pQ&2p@!u~!nPk=&7pQ&2nP!u~!#4k=&6a@uSk",
    "=&2=z!nP!p@pQ&4p@!nPpQ&6a@uSk=&4u~!nPk=&7pQ&6p@pQ&6u~k=&7pQ&2=K!nP!nPk=&7pQ&4u~!u~k=&2>1!n",
    "P!u~k=&7pQ&4p@!#4k=&4u~!q#k=&7pQ&6u~k=&7pQ&2gt!nP!a@uSk=&4q#!u~k=&7pQ&2[r!u~!nPk=&7pQ&6u~p",
    "Q&6#4k=&2av!p@!u~k=&4u~!u~k=&7pQ&6a@uSk=&2m3!u~!u~k=&6#4k=&6a@uSk=&2km!q#!u~k=&7pQ&2;B!u~!",
    "nPk=&6u~k=&2sP!nP!u~k=&6#4k=&6a@uSk=&4p@!p@pQ&7k=&4q#!u~k=&7pQ&4u~!nPk=&7pQ&2u~!nP!p@pQ&6u",
    "~pQ&6#4k=&4p@!nPpQ&6u~pQ&4q#!p@pQ&6u~pQ&"]),
  (0xFD92, [
    "0bis$u~!p@!q#pQ&2n:!u~!p@pQ&6u~pQ&2xz!nP!u~pQ&6a@uSk=&4p@!u~k=&7pQ&6a@uSk=&4u~!#4k=&6a@uSk",
    "=&2#4!u~!u~k=&7pQ&2c#!q#!#4k=&2]C!p@!#4k=&6a@uSk=&4q#!#4k=&6a@uSk=&4u~!#4k=&6a@uSk=&2p@!u~",
    "!#4k=&4nP!a@uSk=&4u~!a@uSk=&2=z!q#!a@uSk=&2=K!nP!#4k=&2>1!nP!#4k=&2gt!nP!#4k=&2sP!p@!#4k=&",
    "4u~!#4k=&2#4!nP!#4k=&4p@!#4k=&4u~!#4k=&2u~!u~!#4k=&2;B!u~!#4k=&2xz!nP!#4k=&2;B!u~!nPpQ&2sP",
    "!nP!u~pQ&2av!u~!#4k=&2qW!u~!#4k=&2xz!p@!nPpQ&2u~!q#!#4k=&2sP!p@!u~pQ&2qW!u~!u~k=&2sP!p@!u~",
    "k=&2xz!p@!nPk=&2p@!nP!#4k=&2nP!p@!#4k=&2u~!p@!#4k=&2km!u~!#4k=&2c#!nP!#4k=&2qW!u~!u~pQ&2av",
    "!p@!u~pQ&2=K!u~!u~pQ&2=z!q#!#4k=&2xz!p@!#4k=&"]),
  (0xFDCF, ["0bis$SALAAMUHU ALAYNAA "]),
  (0xFDF0, [
    "0bis$=S|8b;rk@q)ph&2QALA |8b;rk@q)ph&2ALLAH ph&2AKBAR ph&2MOHAMMAD ph&2SALAM ph&2RASOUL ph",
    "&2a=ph&2~Oph&2=Sph&2=Ta=~O2JALLAJALALOUHOU 0RIAL )0bis$BISMILLAH AR-RAHMAN AR-RAHEEM 2SUBH",
    "AANAHU ~ETAAALAA 2AZZA ~EJALL "]),
  (0xFE10, ["0:n&lW|vft4o~ft5lo@q4fr4=_4kNu84;Yu84sl~hs.d;4,~hs.BRAKCET 4o0jc"]),
  (0xFE20, [
    "0fss$slnT2,nT1i1^CslnT3,nT1uFslnT2,nT1f;uF1s$slnTc&2,nTc&1^CslnTc&2,nTc&1uFslnTc&2,nTc&1f;",
    "uFc&1gn^OslnT3,nT0:n&lW|v_ziXsf4jeg%4jkg%4t8s*4~Wt8s*4slz%4,z%4slg2d;4,g2d;4sl^n>5d;4,^n>5",
    "d;4sld1s.d;4,d1s.d;4sli1bNd;4,i1bNd;4slbNd;4,bNd;4slf&d;4,f&d;4sl~hf&d;4,~hf&d;0=(iX0~h=(i",
    "X0:n&lW|vsl@Kd;4,@Kd;0g&z80e.z80~Wz80i1~Wz80g&t8s*0e.t8s*0~Wt8s*0%ft1o~ft1lo@q"]),
  (0xFE54, [
    "0%=_1fr1;Yu81kNu81jeg%1slz%1,z%1slg2d;1,g2d;1sl^n>5d;1,^n>5d;1yH)1bG1b_1:G)1ot1s<)1m=)1j@)"]),
  (0xFE68, ["0%<J?>1iQ)1.2)1fub#"]),
  (0xFE70, ["0bikfph&1[|!kfaZ1g=ph&1[tFRAGMENT 1qkph&"]),
  (0xFE76, [
    "0bikeph&2u@&1g<ph&2u@&1qjph&2u@&1>Kph&2u@&1@*ph&2u@&1$nXph&2a@!uGaZph&6k=&4nXaZph&6k=&2~X!",
    "nXaZph&6k=&2a@!nXc&ph&6k=&2#4!nXaZph&6k=&6pQ&6u@&2a@ph&3k=&2c#ph&3k=&3pQ&3u@&2]Cu6ph&4k=&3",
    "ph&3k=&3pQ&3u@&2]bph&3k=&3pQ&3u@&2p@ph&3k=&3pQ&3u@&2nPph&3k=&3pQ&3u@&2q#ph&3k=&3pQ&3u@&2gy",
    "ph&3k=&2]6ph&3k=&2;!ph&3k=&2/Gph&3k=&2=zph&3k=&3pQ&3u@&2>1ph&3k=&3pQ&3u@&2=Kph&3k=&3pQ&3u@",
    "&2gtph&3k=&3pQ&3u@&2[rph&3k=&3pQ&3u@&2/Fph&3k=&3pQ&3u@&2avph&3k=&3pQ&3u@&2m3ph&3k=&3pQ&3u@",
    "&2kmph&3k=&3pQ&3u@&2;Bph&3k=&3pQ&3u@&2qWph&3k=&3pQ&3u@&2sPph&3k=&3pQ&3u@&2u~ph&3k=&3pQ&3u@",
    "&2xzph&3k=&3pQ&3u@&2n:ph&3k=&3pQ&3u@&2~Xph&3k=&2a@uSph&4k=&2#4ph&3k=&3pQ&3u@&1s$sP!a@!uGaZ",
    "ph&8k=&6nXaZph&8k=&7c&ph&8k=&5ph&5k=&"]),
  (0xFEFF, ["0/S~mxw?$"]),
  (0xFF01, [
    "0lpkNu81;3u81yH)1iQ)1.2)1bG1bb1slz%1,z%1b_1:G)1ft1ot1lo@q1?>1h:/S2y/2_z2]:2l42k/2?Y2=+2jU2",
    "x81fr1=_1s<)1j@)1m=)1;Yu81fub#1s7($aI4cL4eR4gp4i/4k44lx4nL4ow4pu4qM4r*4t:4wT4yh4zh4:*4;a4=",
    "G4[d4_^4|d4~D4~$4#D4/A1sl@Kd;1<J?>1,@Kd;1f2a21t8s*1m:a21s7%$aI4cL4eR4gp4i/4k44lx4nL4ow4pu4",
    "qM4r*4t:4wT4yh4zh4:*4;a4=G4[d4_^4|d4~D4~$4#D4/A1slg2d;1|vs*1,g2d;1^C1sl~hz%1,~hz%0nVo~lo@q",
    "1slf&d;1,f&d;1o~ft1qlvQiX2$~w3%aI4ow4_^4i/4yh4#F4#=4#s4_51qm:u?~u81ql$aI3ow3_^3i/3yh3qN3rH",
    "3r:3qt3ra3=I3>~3@<3=s3?y3[e3]^3_53[*3^13wW3xU3yA3wx3xv3nM3n$3oc3no3oN3uC3vL3v|3u;3ve3#F3#=",
    "3#s3;c3<R3<(3;<3<t3~E3wT2|/?~u82=@?~u81nck;2$rT3@X3rU3xW3xX3xY3]%3@23<V3<Z3<13<53<73<93<43",
    "<W3vU3.y3@Z3.=3?N3@13o!3fT3@U3fD3rB3]k3.l3n("]),
  (0xFFC2, ["0nVnc$aI3ad3#F3#I3j.3i/"]),
  (0xFFCA, ["0nVnc$#83#13yh3~E3~G3yp"]),
  (0xFFD2, ["0nVnc$#s3_^3~93~33~j3#="]),
  (0xFFDA, ["0nVnc$kF3#k3ow"]),
  (0xFFE0, ["0lpew)1:6)1x>)1uF1d!cg1#6)1~.)"]),
  (0xFFE8, ["0nVFORMS s%|v1sr+1|1+1<h+1i9+1d1@K1~hfX"]),
  (0xFFF9, ["0INTERLINEAR bRbJ2=!2TERMINATOR 0OBJECT <Ae]0<Ae]"])]

end ModuleDocs.CharacterName
