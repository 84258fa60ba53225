/-! # Names of letters and marks

    The names of the code points below U+2000, those in numbered
    series apart, each as what is new in it after the one before. -/

namespace ModuleDocs.CharacterName

/-- The names, written briefly: the first code point, and the names from it on. -/
def alphabets : List (Nat × List String) := [
  (0x20, [
    "0?$0kNu80;3u80yH)0iQ)0.2)0bG0bb0slz%0,z%0b_0:G)0ft0ot0lo@q0?>0h:/S1y/1_z1]:1l41k/1?Y1=+1jU",
    "1x80fr0=_0s<)0j@)0m=)0;Yu80fub#0s7($aI3cL3eR3gp3i/3k43lx3nL3ow3pu3qM3r*3t:3wT3yh3zh3:*3;a3",
    "=G3[d3_^3|d3~D3~$3#D3/A0sl@Kd;0<J?>0,@Kd;0f2a20t8s*0m:a20s7%$aI3cL3eR3gp3i/3k43lx3nL3ow3pu",
    "3qM3r*3t:3wT3yh3zh3:*3;a3=G3[d3_^3|d3~D3~$3#D3/A0slg2d;0|vs*0,g2d;0^C"]),
  (0xA0, [
    "0xw?$0p5kNu80ew)0:6)0g3)0#6)0d!cg0=x)0hn0f%)0kpzJpK0sni1bN;3u80x>)0?;os0REGISTERED )0uF0hY",
    ")0PLUS-MINUS )0[F_z1]:0a8a20MICRO )0._)0vQiX0et0[Fy/0MASCULINE zJpK0<di1bN;3u80|,l8y/;U3nT",
    "2]:;V0p5;Yu80s7($aI!m:5a85f25^C5hn5<kaZ3ad3eR!et3i/!m:5a85f25hn3ow!m:5a85f25hn3kC3wT!^C3yh",
    "!m:5a85f25^C5hn0v))0s7($yh!@z3_^!m:5a85f25hn3#D!a83]w1%$>V=G3aI!m:5a85f25^C5hn5<kaZ3ad3eR!",
    "et3i/!m:5a85f25hn3ow!m:5a85f25hn3kC3wT!^C3yh!m:5a85f25^C5hn0iA)0s7%$yh!@z3_^!m:5a85f25hn3#",
    "D!a83]w3#D!hn1($aI!uF1%$aI!uF1($aI!d^1%$aI!d^1($aI!yu1%$aI!yu1($eR!a81%$eR!a81($eR!f21%$eR",
    "!f21($eR!iXaZ1%$eR!iXaZ1($eR!ed1%$eR!ed1($gp!ed1%$gp!ed1($gp!@z1%$gp!@z1($i/!uF1%$i/!uF1($",
    "i/!d^1%$i/!d^1($i/!iXaZ1%$i/!iXaZ1($i/!yu1%$i/!yu1($i/!ed1%$i/!ed1($lx!f21%$lx!f21($lx!d^1",
    "%$lx!d^1($lx!iXaZ1%$lx!iXaZ1($lx!et1%$lx!et1($nL!f21%$nL!f21($nL!@z1%$nL!@z1($ow!^C1%$ow!^",
    "C1($ow!uF1%$ow!uF1($ow!d^1%$ow!d^1($ow!yu1%$ow!yu1($ow!iXaZ1%$iYow1(s$o*1%s$o*1($pu!f21%$p",
    "u!f21($qM!et1%$qM!et3KRA 1($r*!a81%$r*!a81($r*!et1%$r*!et1($r*!ed1%$r*!ed1($r*!vQiX1%$r*!v",
    "QiX1($r*!@z1%$r*!@z1($wT!a81%$wT!a81($wT!et1%$wT!et1($wT!ed1%$wT!ed4PRECEDED eNbb1($jq1%$j",
    "q1($yh!uF1%$yh!uF1($yh!d^1%$yh!d^1($yh!i1a81%$yh!i1a81(s$yp1%s$yp1($;a!a81%$;a!a81($;a!et1",
    "%$;a!et1($;a!ed1%$;a!ed1($=G!a81%$=G!a81($=G!f21%$=G!f21($=G!et1%$=G!et1($=G!ed1%$=G!ed1($",
    "[d!et1%$[d!et1($[d!ed1%$[d!ed1($[d!@z1%$[d!@z1($_^!^C1%$_^!^C1($_^!uF1%$_^!uF1($_^!d^1%$_^",
    "!d^1($_^!<kaZ1%$_^!<kaZ1($_^!i1a81%$_^!i1a81($_^!yu1%$_^!yu1($~D!f21%$~D!f21($#D!f21%$#D!f",
    "21($#D!hn3/A!a81%$/A!a81($/A!iXaZ1%$/A!iXaZ1($/A!ed1%$/A!ed3tY=G3cL!@z1($cL!oX5^k1%$cL!^k1",
    "($^5?Y1%$^5?Y1($y,yh3eR!oX1%$eR!oX1($aqgp3gp!oX5^k1%$gp!^k3_fh41($<Ki/3=m3y,i/3k4!oX1%$k4!",
    "oX1($lx!oX3l]1%$ol1($p73ow!@z3qM!oX1%$qM!oX3r*!cg3LAMBDA !@z1($_ft:3wT!sloX1%$wT!tY,ss1($y",
    "h!vQ^C5o11%$yh!o11($yx1%$yx1($zh!oX1%$zh!oX1$#<1($^5_z1%$^5_z1($j&1$<Kj&t21%$[d!zuoX1($[d!",
    "oX1%$[d!oX1($[d!<GoX3_^!o11%$_^!o11($|Y3|d!oX3#D!oX1%$#D!oX1($/A!@z1%$/A!@z1($k24<K1%$k2<K",
    "4![t1$_z!@z1($^5k/1%$^5k/1$p5mn@q!@z2~!2h8f92s6f92bCf92<Gf91($i:!ed3gp!%$/A!ed1%$i:!ed1($t",
    "L3r*!%$pu1%$tL1($xc3wT!%$pu1%$xc1($aI!ed1%$aI!ed1($ow!ed1%$ow!ed1($yh!ed1%$yh!ed1($_^!ed1%",
    "$_^!ed1($_^!hn*uF1%$_^!hn*uF1($_^!hn*a81%$_^!hn*a81($_^!hn*ed1%$_^!hn*ed1($_^!hn*m:1%$_^!h",
    "n*m:3_fi/1($aI!hn*uF1%$aI!hn*uF1($aI!iXaZ*uF1%$aI!iXaZ*uF1($ad!uF1%$ad!uF1($lx!@z1%$lx!@z1",
    "($lx!ed1%$lx!ed1($qM!ed1%$qM!ed1($yh!yu1%$yh!yu1($yh!yu*uF1%$yh!yu*uF1($k2!ed1%$k2!ed3pu!e",
    "d1($i:3gp!%$/A1%$i:1($lx!a81%$lx!a81($om3~!3wT!m:1%$wT!m:1($aI!<kaZ*a81%$aI!<kaZ*a81($ad!a",
    "81%$ad!a81($yh!@z*a81%$yh!@z*a81($aI!i1m:1%$aI!i1m:1($aI!p5d^1%$aI!p5d^1($i/!i1m:1%$i/!i1m",
    ":1($i/!p5d^1%$i/!p5d^1($ow!i1m:1%$ow!i1m:1($ow!p5d^1%$ow!p5d^1($yh!i1m:1%$yh!i1m:1($yh!p5d",
    "^1%$yh!p5d^1($;a!i1m:1%$;a!i1m:1($;a!p5d^1%$;a!p5d^1($_^!i1m:1%$_^!i1m:1($_^!p5d^1%$_^!p5d",
    "^1($=G!ftc&1%$=G!ftc&1($[d!ftc&1%$[d!ftc&1($#y1%$#y1($nL!ed1%$nL!ed1($wT!tY,ss1%$gp!g01($z",
    "V1%$zV1($/A!oX1%$/A!oX1($aI!iXaZ1%$aI!iXaZ1($i/!et1%$i/!et1($yh!hn*uF1%$yh!hn*uF1($yh!^C*u",
    "F1%$yh!^C*uF1($yh!iXaZ1%$yh!iXaZ1($yh!iXaZ*uF1%$yh!iXaZ*uF1($#D!uF1%$#D!uF3r*!g03wT!g03[d!",
    "g03iYpu3hAh=3QP h=1($aI!@z3eR!@z1%$eR!@z1($r*!cg3[d!ho@z1%$=G![X[t3/A![X[t1($mn@q1%$mn@q1(",
    "$cL!@z3_^cg3_f|d3i/!@z1%$i/!@z1($pu!@z1%$pu!@z1($%:*!oX[t1%$:*!oX[t1($;a!@z1%$;a!@z1($#D!@",
    "z1%$#D!@z3_faI3a*3_fa*3cL!oX3y,yh3eR!g03gp![t5oX3<Ki/3=m4!oX3y,i/3<Ky,i/6!oX3ff<Ky,i/3iYpu",
    "!@z3lx!oX3=rlx1$%(lx1%$l]3;to13_fnL3nL!oX3n>!oX3ow!@z3p71$%(ow1%$r*!vQ^C5c(5<GoX3s[3_ft:5!",
    "tYss3t:!oX3wT!sloX5<GoX1$%(wT1%$cjyh1$%(yp1%$ffy]3.k3_f;a5!tYss6oX3;a!tYss5[t5k|3<K;a!k|1$",
    "%(;a4p5;a1%$=G!oX3j&3iYpu!@z*oX3@N<Kj&3j&!g03_f[d3[d!<GoX3_^cg3|Y3|d!oX3_f|d4~D4#D1$%(#D1%",
    "$/A!<GoX5g03k24!g01$mn@q2.i|/FRICATIVE 2p5mn@q2@yeR2dQf92%(cL1%$ffy,i/1$%(lx!oX4nL1%$pu!gK",
    "3_fqM1$%(r*1%$:*!oX1$mn@q!@z2<Kmn@q!@z1%$i:h=3hhh=3i:h=!g03^,h=3]Rh=3[%h=!g03krh=3teh=3t.h",
    "=1$dQ.32BIDENTAL .31%$_fnL!k|7*[t0vh$%nL4!oX3pu3;a3_f;a5!oX3(p5;a3~D3#D2:o2i1:o2_fft2bb2<K",
    "ft2,nT<k2slnT<k2mn@q2<Kmn@q2slby2,by2|Uby2i7by2f2a20ed0vh$|vs*2uF2a8a22m:a22t8|vs*3uF3m:a2",
    "3a8a22^]fr2nT^]fr2ez,nT<k3slnT<k2|U[m2i7[m2:G)2v8)0d^0iXaZ0<kaZ0yu0%^C0i1a8a20vh$RHOTIC oX",
    "2gGa22%l]3r*3=G3~$3<Kmn@q2kR^5cg2n)^5cg2vO^5cg2t8^5cg2kS^5cg2#oh9^5u82#Rh9^5u82|!2UNASPIRA",
    "TED 2i1bb2t8i7by3|Uby3slby3,by3<k2vQm:a23i1m:a24a8a22t8^C2;qfr2c~n)^52jpn)^52c~t8^52jpt8^5",
    "2>42y,>42t8sl+0fsm:a21a8a21f2a21^C1uF1z81d^1iXaZ1hn1oXaZ1<kaZ1i1a8a21ed1|vs*aZ1i1|vs*aZ2m:",
    "a21e71p5d^1_fftaZ1ftaZ1<KftaZ1ftaZ,1m:a2c&1a8a2c&1sl[mc&1,[mc&1slbNaZ1o11slnT<kc&1|U[mc&1i",
    "7[mc&1:G)c&1v8)c&1PALATALIZED oXc&1<GoXc&1iXc&1hnc&1<kc&1ftc&1et1yu1|vs*c&1d~c&1p5i1bnc&1e",
    "dc&1f2a2c&1d^c&1p5d^c&1^Cc&1uFc&1t8s*1i1t8s*1^Cz71>u@zz71tY@zz71>u?>z71tY?>z71,nT<kc&1p5d~",
    "c&1@Kc&1SEAGULL c&1~$aZ1|v^C1i1z81m:^5u81a8^5u81m>.52rm2hq^f2#;1d~aZ1j@)c&1i1|vs*c&1slbNc&",
    "1x>^CaZ1oUaZ1a(j?^1aZ1sl,+c&1|1+c&1GRAPHEME qD1,byaZ1slnT<kaZ1ks1~$c&1slbyc&1,byc&3*|Ubyc&",
    "2nT<kaZ1iXaZ,1b_c&1i1<kc&1/5aZ"]),
  (0x35C, [
    "0fsi1d^c&32uF3c&2^C2p5d^2<h+c&1s7%$aI4i/4ow4yh4_^4eR4gp4nL4t:4;a4[d4|d4~$0m>($n^1%$n^1($bo",
    "=11%$bo=11yI)1tbyI)1($z.h.1%$z.h."]),
  (0x37A, ["0m>#;1%<Kto>([82i0to>([82<Ki0to>([81;Yu81($#:"]),
  (0x384, ["0m>^f1hq^f1($a*!^f1bS]F1($j>!^f3j,!^f3p7!^f"]),
  (0x38C, ["0m>($y_!^f"]),
  (0x38E, ["0m>($|Y!^f3y]!^f1%$p7!hq*^f1($a*3dE3l]3h43j>3/T3j,3]h3p73q93sQ3v|3yA3~*3y_3.s3<Q"]),
  (0x3A3, [
    "0m>($>(3[~3|Y3.k3fB3::3y]3p7!hq3|Y!hq1%$a*!^f3j>!^f3j,!^f3p7!^f3|Y!hq*^f3a*3dE3l]3h43j>3/T",
    "3j,3]h3p73q93sQ3v|3yA3~*3y_3.s3<Q3k=>(3>(3[~3|Y3.k3fB3::3y]3p7!hq3|Y!hq3y_!^f3|Y!^f3y]!^f1",
    "(qY[81dE[81]h[81|Y!oX[83a8*oX[83hn*oX[81.k[81.s[81qY[81$borj1%$borj1$@m1%$@m1$h.1%$h.1$rj1",
    "%$rj1$=11%$=10f$($>31%$>31($kn1%$kn1($q*1%$q*1($oZ1%$oZ1($l|1%$l|1($>g1%$>g1($h01%$h00m>q9",
    "[81<Q[81to>([81$#:1(]h[81toj>[81<Ktoj>[81($>m1%$>m1(to>([82$=21%$=21<Q!@z[81(<Kto>([82i0to",
    ">([82<Ki0to>([80gn($o/!m:3p63iD3mi3|Co/3i<3eOow3#k3p>3tM3xh3_G3rV3ow!m:3>u_^3i@3aI3c<3|n3m",
    "53hR3o/3/W3/N3ow3>uow3qN3j43je3jk3yh3.I3j_3j$3[*3_^3jG3nM3_D3e/3>F3>Y3ng)3#c3?;)3i/3#=3#F1",
    "%$aI3c<3|n3m53hR3o/3/W3/N3ow3>uow3qN3j43je3jk3yh3.I3j_3j$3[*3_^3jG3nM3_D3e/3>F3>Y3ng)3#c3?",
    ";)3i/3#=3#F3o/!m:3p63iD3mi3|Co/3i<3eOow3#k3p>3tM3xh3_G3rV3ow!m:3>u_^3i@1($y]1%$y]1($#V1%$#",
    "V1($p9i/1%$p9i/1($tJ#|1%$tJ#|1($p9tJ#|1%$p9tJ#|1($dP#|1%$dP#|1($p9dP#|1%$p9dP#|1($rz1%$rz1",
    "($::1%$::1($k#1%$k#1($pt1%$pt1($pt!i1m:a21%$pt!i1m:a21($|B1%$|B1($<|y]1%$<|y]1($y]!^O1%$y]",
    "!^O1($zS1%$zS1($rj1%$rj1]z)0fsgn^O2PALATALIZATION 2g(:J2:<:J2POKRYTIE 2oi]z)2v3)0gn($>uow!",
    "[t1%$>uow![t1($=#)1%$=#)1($j_!]|1%$j_!]|1($m5!|Z1%$m5!|Z1($m5!@z1%$m5!@z1($m5!vQoX1%$m5!vQ",
    "oX1($/W!hb1%$/W!hb1($/N!hb1%$/N!hb1($qN!hb1%$qN!hb1($qN!|v@z1%$qN!|v@z1($qN!@z1%$qN!@z1($c",
    "oqN1%$coqN1($jk!hb1%$jk!hb1(s$jkm51%s$jkm51($.I!vQoX1%$.I!vQoX1($aYnM1%$aYnM1($j$!hb1%$j$!",
    "hb1($[*!hb1%$[*!hb1($@t_^1%$@t_^1($@t_^!@z1%$@t_^!@z1($nM!hb1%$nM!hb1(s$[*_D1%s$[*_D1($e/!",
    "hb1%$e/!hb1($e/!|v@z1%$e/!|v@z1($>a1%$>a1($aYe/1%$aYe/1($aYe/!hb1%$aYe/!hb1$zy1($/W!d^1%$/",
    "W!d^1($qN!oX1%$qN!oX1($j4![t1%$j4![t1($jk!oX1%$jk!oX1($jk![t1%$jk![t1($q!e/1%$q!e/1($je![t",
    "1%$je![t3zy1($aI!d^1%$aI!d^1($aI!hn1%$aI!hn1(s$aIo/1%s$aIo/1($o/!d^1%$o/!d^1($=m1%$=m1($=m",
    "!hn1%$=m!hn1($/W!hn1%$/W!hn1($/N!hn1%$/N!hn1($aYi<1%$aYi<1($ow!uF1%$ow!uF1($ow!hn1%$ow!hn1",
    "($yh!hn1%$yh!hn1($cjyh1%$cjyh1($cjyh!hn1%$cjyh!hn1($i/!hn1%$i/!hn1($_^!uF1%$_^!uF1($_^!hn1",
    "%$_^!hn1($_^!i1a81%$_^!i1a81($e/!hn1%$e/!hn1($m5!hb1%$m5!hb1($#c!hn1%$#c!hn1($m5!@z*oX1%$m",
    "5!@z*oX1($nM!oX1%$nM!oX1($nM!@z1%$nM!@z1($rfhR1%$rfhR1($rfiD1%$rfiD1($rf/71%$rf/71($rfi]1%",
    "$rfi]1($rftM1%$rftM1($rfxh1%$rfxh1($rf?81%$rf?81($rf^Q1%$rf^Q1($<K/N1%$<K/N1($j4!oX1%$j4!o",
    "X1($s^1%$s^1($<P1%$<P1($#I1%$#I1($:+1%$:+1($~31%$~31($a^qN1%$a^qN1($j4!vQoX1%$j4!vQoX1($jk",
    "!vQoX1%$jk!vQoX1($.I!hb1%$.I!hb1($>a!hb1%$>a!hb1($jk!sloX1%$jk!sloX1($i#1%$i#1($hB1%$hB1($",
    "j4!hb1%$j4!hb"]),
  (0x531, [
    "0bv($cG3c)3me3gq3jC3/B3jM3j+3^13/W3pP3tK3~)3eT3q.3oN3pw3m23e(3u)3#k3x|3>F3|~3e<3.P3p|3;c3=",
    "<3|z3^P3;!3fo3#q3.*3qw3yv3km"]),
  (0x559, [
    "0bvvh$slnT<k1bb1jiu81kNu81ft1;Yu81aXu81%$_fcG3cG3c)3me3gq3jC3/B3jM3j+3^13/W3pP3tK3~)3eT3q.",
    "3oN3pw3m23e(3u)3#k3x|3>F3|~3e<3.P3p|3;c3=<3|z3^P3;!3fo3#q3.*3qw3yv3km2s$jC#q2$#k!@z1lo@q1o",
    "s"]),
  (0x58D, ["0<cbvkA)0smbvkA)0bvid)"]),
  (0x591, [
    "0nya2ETNAHTA 2=;2SHALSHELET 2ZAQEF ;F3GADOL 2TIPEHA 2REVIA 2ZARQA 2PASHTA 2YETIV 2TEVIR 2m",
    "N3MUQDAM 2mO2QARNEY z]2]HGEDOLA 2PAZER 2ATNAH HAFUKH 2MUNAH 2MAHAPAKH 2MERKHA 3KEFULA 2DAR",
    "GA 2QADMA 2]HQETANA 2YERAH c)YOMO 2OLE 2ILUY 2DEHI 2ZINOR 1u8MASORA fX1:MSHEVA 2HATAF =;3.",
    "B3;D2oE2TSERE 2=;2.B2;D2oQ3HASER lW|m2QUBUTS 2gvzHu32METEG 1:[MAQAF 1:M;n1:[PASEQ 1:M>hiX2",
    "?IiX1:[?:PASUQ 1u8|XiX2tbiX1:[yLHAFUKHA 1:M;D;F"]),
  (0x5D0, [
    "0ny$a@2dD2mf2g:2no2|m2/L2n]2]T2#w2k=qW2qW2sS2k=u%2u%2k=yL2yL2=02cH2k=.I2.I2k=_B2_B2;L2<C2>",
    "h2[#"]),
  (0x5EF, ["0ny#w^@1s$#li1|m3|m#w3i1#w1:[mN2mO"]),
  (0x600, [
    "0biyH)1)SANAH 1lVuc1)=O2SAMVAT 1yHu8aZ0bjgS<>1l6<>0bi;z0bj.1v2)2]K]y)0AFGHANI )0bift1g*=!1",
    "POETIC |u)1)MISRA 2=Ta=WASSALLAM 2a=ASSALLAM 2RAHMATULLAH a=2;jALLAHOU ANHU 2TAKHALLUS 1%n",
    ")[r3s$a@!sP!#43/G2ke2g<2qj1=_1$u81jpys]1u81^~iX:[u81;Yu81$qh#42nX2a@!uGaZ4nXaZ2~X!nXaZ2a@!",
    "nXc&2#4!nXaZ2a@2c#2]Cu632]b2p@2nP2q#2gy2]62;!2/G2=z2>12=K2gt2[r2/F2av2m32qx!_ziZaZ4]:iZc&2",
    "kd#4!p5|d5_ziZaZ5]:iZaZ1[|1$km2;B2qW2sP2u~2xz2n:2~X2a@uS2#41kf1g=1qk1ke1g<1qj1>K1@*1uHaZ1n",
    "XaZ2c&1@^a@1p5g<1u8xzma1ZWARAKAY 1|))%|daZ3p5%|daZ3iXc&1<Kg<1ke!_ziZ1~WnXc&0bjh:/S2y/2_z2]",
    ":2l42k/2?Y2=+2jU2x80bi.2)1hT=!1]z=!1k/:N@c1$iYc#3;B2[Fa@2a@~P3!~WnXaZ6c&2n)nX4a@4~X2_^!nXa",
    "Z2n)nX#42_U2_V2c^2]C!<k4]:iZaZi92.P2]D2c/2nP!nXaZ4_ziZ|vaZ2y42iz2nP!]:iZaZ2[(2[)2hF2gy!<k4",
    "iXc&6*%[r2gx2hE2iq2gy!]:iZaZi94l4iZaZ2<$2;!!%|d4<k4iXc&4%|dc&4iXc&*iXaZ4_ziZaZ2p]2;!!l4iZa",
    "Z2=z!iXc&*iXaZ4]:iZc&7*]:iZaZ2=K!_ziZc&4]:iZaZ2[r!]:iZaZ2av!]:iZaZ2iYkm2km!iXMOVED c&5c&2|",
    "r2km!]:iZc&2.Q2;B!iXaZ4]:iZaZ2qx2[XqW2qW!<k4iXaZ2w$2qW!]:iZc&2l=3!<k2xO2l=!_ziZc&2m&2l=!]:",
    "iZaZ2sP!%|d4iXaZ4]:iZaZ6c&2xz!iXc&3ma2<r2xz!<k4]:iZaZ2n:iJ2[(!iXaZ2n:!#4aZ3mq4!nXaZ2]Cu6mq",
    "2~X!<k2rOyp2yp2_^2#=2rO#=2~X!_ziZaZ2|n2kd#42#4![t4%|d2~X!iXaZ2i/2#4!]:iZc&3ck4!nXaZ1lo@q1$",
    "ad1%n)s$=K!sP!a@uS4;B!sP!a@uS3u~pQ&3sPa@3p@3]:iZ3=z1jpyscF1@dys<)j4HIZB 1%n)<~/S3UPRIGHT ;",
    "[/S3iYnpysq#3u~ph&2t8=z2n)uG2~X2#42n)#43xz1.,ysSAJDAH 1jjeyt8@q3n)@q1<~n)@q!FILLED ey1%t8u",
    "~1$gy!p5|d2;!!p5|d0kPbjh:/S3y/3_z3]:3l43k/3?Y3=+3jU3x80bi$>1!iXc&2gt!iXc&2m3!iXc&1)SINDHI ",
    "bG3POSTPOSITION u)1$n:!p5|d0[cjpysz^1[Ilo@q1@]lo@q1[Ifr1@]fr1o0fr1fr?bsl3,1[Ifr?bsl1@]fr?b",
    ",1CONTRACTION 1HARKLEAN OBELUS 2METOBELUS 2ASTERISCUS "]),
  (0x70F, [
    "0[caXu81$a<2[Fa<2dF2GAMAL 3l!2gz2iYgz<m2no2~X2/G2n_2]W3l!2YUDH 3no2q82LAMADH 2v42yL2=/2k==",
    "/2i/2.I2<K.I2=M2QAPH 2<m2>h2[/2.8dL3GHAMAL 3DHALATH 1PTHAHA aZ2c&2i01ZQAPHA aZ2c&2i01RBASA",
    " aZ2c&1i0ZLAMA o03ANGULAR 1HBASA aZ2c&1HBASA-ESASA i01ESASA aZ2c&1RWAHA 1kpiX1QUSHSHAYA 1R",
    "UKKAKHA 1_z|viZaZ4c&1]:iZaZ3c&1yks*aZ3c&1wB1BARREKH "]),
  (0x74D, [
    "0[c$?<ZHAIN 3q%3ki0bi$c#!]:iZHORIZONTALLY c&4iXc&*]:iZaZ4]:iZ:P|1c&9*_ziZaZ4_ziZc&*iXaZ4p5",
    "%|dc&4%|d2nP!_ziZaZ4]:iZ:P|1c&2gy!_ziZ|wc&*%[r4p5%|dc&2;!!@z2=z!l4iZaZ2av!_ziZaZ4]:iZ:Pi9a",
    "Z4_ziZ|waZ2km!_ziZc&4]:iZ:P|1c&2qx!iXaZ4]:iZaZ6:P|1c&2u~!iXaZ5c&2xz!_ziZc&4%[r5|d2sP!cg2;!",
    "!_ziZ|waZ4nXaZ2=z!_ziZ|waZ2nP!%bi$[rc&8*_ziZ2=z!%bi$[r*_ziZ2;!!%bi$[r*_ziZ2nP!%bi$[raZ2a@!",
    "kPbjh:_zaZ7]:aZ2kd#4!kPbjh:_zaZ8]:aZ8l4c&2~X!kPbjh:_zaZ7]:aZ2#4ck!kPbjh:_zaZ8]:aZ2nP!kPbjh",
    ":l4c&2=z!kPbjh:l4aZ4p5|d2qW!_ziZaZ0THAANA $nN2SHAVIYANI 2NOONU 2;e2cR2LHAVIYANI 2KAAFU 2AL",
    "IFU 2VAAVU 2MEEMU 2FAAFU 2DHAALU 2]42LAAMU 2GAAFU 2GNAVIYANI 2SEENU 2DAVIYANI 2ZAVIYANI 2T",
    "AVIYANI 2#H2PAVIYANI 2JAVIYANI 2CHAVIYANI 2_R2n/2q~2THAALU 2/D2SHEENU 2SAADHU 2DAADHU 2^12",
    "/a2AINU 2GHAINU 2QAAFU 2WAAVU 1ABAFILI 1AABAAFILI 1IBIFILI 1EEBEEFILI 1UBUFILI 1OOBOOFILI ",
    "1EBEFILI 1EYBEYFILI 1OBOFILI 1OABOAFILI 1@*1$wY"]),
  (0x7C0, [
    "0xrh:/S2y/2_z2]:2l42k/2?Y2=+2jU2x81$aI2jF2ow2i/2_^2y(2yh2DAGBASINNA 2wT2cQ2zi2[e2pw2e<2gq2",
    ";c2</2=I2l*2k52qN2r,2wW~x2uC2yZ2wW2nM2~E2#F2yZ~x2JONA pw3e<3;c1fs>un)^53t8^53<n^52tYhc^53n",
    ")^53t8^53<n^52wfu82i1iXaZ1n)^5bb1t8^5bb1[8y(DENNEN 2GBAKURUNEN 1ft1kNu81LAJANYALAN "]),
  (0x7FD, [
    "0xrDANTAYALAN 1DOROME )1TAMAN )0=Y$ALAF 2dZ2GAMAN 2DALAT 2pq2cR2/R2pl2^M2#~2qQ2LABAT 2v42y",
    "L2SINGAAT 2pF2kt2TSAADIY 2QUF 2<m2>Q2TAAF 1u8pF2IN-ALAF 2OCCLUSION 2gv1vh$j;#~1u8j;#~1|))t",
    "Yi/3i/3z9aR3tYaR3aR3z9aI3tYaI3aI1vh$>uaI1|))>uaI3tY_^3_^1vh$ow1|))tYow3ow3yh3@*1u8w["]),
  (0x830, [
    "0=Y:[w[2AFSAAQ 2ANGED 2BAU 2ATMAAU 2SHIYYAALAA 1aXu81:[MELODIC ;J2ZIQAA 2;J2ZAEF 2TURU 2AR",
    "KAANU 2?:MASHFAAT 2ANNAAU "]),
  (0x840, [
    "0uY$HALQA 2aV2ar2a92as2USHENNA 2cJ2pl2ATT 2AKSA 2az2a;2bD2bH2b;2pF2b32ASZ 2bf2bg2b>2b#2DUS",
    "HENNA 2KAD 2av1AFFRICATION u81VOCALIZATION u81mIu8"]),
  (0x85E, ["0uY:["]),
  (0x860, ["0[c$uTw%3pw3yZ3_Q3xt3xu3dI3;c3tP3tQ3@T"]),
  (0x870, [
    "0bi$a@!b$ke5^i,ke4,vQ@z4slvQ@z4b$qj5dv,qj5<|iXaZ5,<|iX5sl<|iX5<|iXc&4iXaZ4b$^i,ke*iXaZ4,vQ",
    "@z*iXaZ4b$dv,qj*iXaZ5^i,ke*sl<k4,vQ@z*sl<k4b$dv,qj*sl<k5,nX5slnX1[|!OVERSTRUCK nX4~X3_ziZc",
    "&1$]m#41cn<|iX1;q<|iX1$xz!p5%|d2nP!p5%|dc&2[r!iXc&4]:iZc&2qx!_ziZ|wc&1|v[t"]),
  (0x890, ["0bi:6u8aZ1PIASTRE u8aZ"]),
  (0x898, [
    "0bi%n)~>AL-JUZ 2t8~>ISHMAAM 4IMAALA 4TASHEEL 1uGWAAJIB 1[Fa@MOKHASSAS 1i5uG1nTuGz2uG1$c#!%",
    "|dc&4nXaZ2p@!_ziZaZ2[r!_ziZaZ2km!iXc&*]:iZaZ2;B!iXc&2sP!i1cg2u~!]:iZaZ2#4!_ziZc&*nXaZ8iXaZ",
    "2;!!t22~X!iX~u2<y#42t8a@2gy!]:iZc&2=K!]:iZc&2l=!p5@z2@t~X2/G!p5|daZ2av!]:iZc&2qW!iXc&2;B!i",
    "Xc&*xviZaZ2c#!%u~aZ2.P!%u~aZ2]C!%]CaZ2;!!%xzaZ2#4!_ziZc&*%xzaZ2aqkm3;B3xz2.P!%|d2]C!%|d2_U",
    "!%|d2[(!%|d2qx!%|d2m3!]:iZaZ2aq;B!]:iZaZ2p@!]:iZaZ6c&2sP!%bi$[raZ2GRAF 1%kd#42n)kd#43#4ck!",
    "_ziZc&3~>=Q3/F1s1<|iXaZ4c&1@*c&1s1fXc&2<|iXpUfXc&1%t8~X2n)~>AR-RUB 3=K3av3;B3xz!qj2t8xz!qj",
    "2n)~>ATH-THALATHA 4AS-SAJDA 4AN-NISF 4SAKTA 4QIF 4WAQFA 3lVuc3)=O1DISPUTED jpyscF1_fg<c&1g",
    "2ke2g<2qj2kf2g=2qk1^5y/iXaZ2_ziZaZ2t2aZ2y/iXc&2_ziZc&2t2c&1y,kf2g=2qk1%n)~X1ke!<k3iXaZ1qj!",
    "iXc&1slbyaZ1,byaZ1slbyc&1,byc&1i1,byaZ5!iX1,byaZ!iX1g<!iX1u8>$xzma0he)p5e72e72b12|]1$>uaI2",
    "aI2aR2ow2o)2_^2|a2|#;a3r*2e6i/2>ui/2i/2au2e6yh2>uyh2yh2b%2qN2q|2ly2m02w%2eT2e<2pw2p^2yZ2_Q",
    "2_W2hC2hK2xt2[e2]32gq2hj2wW2xu2zi2.f2cQ2dI2uC2#F2;c2</2r,2tP2tQ2|e2>F2@T2=I2nM1|))yp3y)1)y",
    "F2b*1|))aR3ow3o)3_^3|a3|#;a4<#3e6i/3>ui/3i/3au3e6yh3>uyh3yh3b%1)|[1|)):ri/3b,1y[1@x)_%3b01",
    "m:a21a8a21|))e6tYi/3_&3|b1$:+2q+2m72/B2hI2<P2k52#,2|#<#3tO1|))|#r*4tO1g>1i1g>1h:/S2y/2_z2]",
    ":2l42k/2?Y2=+2jU2x81aX)1)n)?%iX1$e6aI2yp2y)2b,2_&2|b2MARWARI hC2/U2nx#F2mT2p$2mn@q2hH2cw0c",
    "+bQ1)e72b12|]"]),
  (0x985, ["0c+$aI2aR2ow2o)2_^2|a2|#;a3r*"]),
  (0x98F, ["0c+$i/2au"]),
  (0x993, ["0c+$yh2b%2qN2q|2ly2m02w%2eT2e<2pw2p^2yZ2_Q2_W2hC2hK2xt2[e2]32gq2hj2wW"]),
  (0x9AA, ["0c+$zi2.f2cQ2dI2uC2#F2;c"]),
  (0x9B2, ["0c+$r,"]),
  (0x9B6, ["0c+$>F2@T2=I2nM"]),
  (0x9BC, ["0c+)yF2b*1|))aR3ow3o)3_^3|a3|#;a4<#"]),
  (0x9C7, ["0c+|))i/3au"]),
  (0x9CB, ["0c+|))yh3b%1)|[1$KHANDA [e"]),
  (0x9D7, ["0c+b%sxu8"]),
  (0x9DC, ["0c+$</2<P"]),
  (0x9DF, ["0c+$#,2|#<#3tO1|))|#r*4tO"]),
  (0x9E6, [
    "0c+h:/S2y/2_z2]:2l42k/2?Y2=+2jU2x81$;c!vQho4tbho1=Cu82)1g3yJy/3_z3]:3l43y/LESS ]8]9h72h7?Z",
    "1pk1GANDA u81$|pb11aX)1=4u8"]),
  (0xA01, ["0nD)ADAK dS2dS2|]"]),
  (0xA05, ["0nD$aI2aR2ow2o)2_^2|a"]),
  (0xA0F, ["0nD$jF2au"]),
  (0xA13, ["0nD$y(2b%2qN2q|2ly2m02w%2eT2e<2pw2p^2yZ2_Q2_W2hC2hK2xt2[e2]32gq2hj2wW"]),
  (0xA2A, ["0nD$zi2.f2cQ2dI2uC2#F2;c"]),
  (0xA32, ["0nD$r,2tP"]),
  (0xA35, ["0nD$|e2>F"]),
  (0xA38, ["0nD$=I2nM"]),
  (0xA3C, ["0nD)yF"]),
  (0xA3E, ["0nD|))aR3ow3o)3_^3|a"]),
  (0xA47, ["0nD|))jF3au"]),
  (0xA4B, ["0nD|))y(3b%1)|["]),
  (0xA51, ["0nD)UDAAT "]),
  (0xA59, ["0nD$q+2m72/B2</"]),
  (0xA5E, ["0nD$k5"]),
  (0xA66, ["0nDh:/S2y/2_z2]:2l42k/2?Y2=+2jU2x81TIPPI 1ADDAK 1IRI 1URA 1j2ONKAR 1)YAKASH 1aX)"]),
  (0xA81, ["0m()e72b12|]"]),
  (0xA85, ["0m($aI2aR2ow2o)2_^2|a2|#;a3r*1|)e6i/"]),
  (0xA8F, ["0m($i/2au1|)e6yh"]),
  (0xA93, ["0m($yh2b%2qN2q|2ly2m02w%2eT2e<2pw2p^2yZ2_Q2_W2hC2hK2xt2[e2]32gq2hj2wW"]),
  (0xAAA, ["0m($zi2.f2cQ2dI2uC2#F2;c"]),
  (0xAB2, ["0m($r,2tP"]),
  (0xAB5, ["0m($|e2>F2@T2=I2nM"]),
  (0xABC, ["0m()yF2b*1|))aR3ow3o)3_^3|a3|#;a4<#3e6i/"]),
  (0xAC7, ["0m(|))i/3au3e6yh"]),
  (0xACB, ["0m(|))yh3b%1)|["]),
  (0xAD0, ["0m(y["]),
  (0xAE0, ["0m($|#<#3tO1|))|#r*4tO"]),
  (0xAE6, ["0m(h:/S2y/2_z2]:2l42k/2?Y2=+2jU2x81aX)1=C)"]),
  (0xAF9, ["0m($/U1)@*2>K2uH2THREE-DOT yFaZ2fXyFaZ2_.yFaZ"]),
  (0xB01, ["0zM)e72b12|]"]),
  (0xB05, ["0zM$aI2aR2ow2o)2_^2|a2|#;a3r*"]),
  (0xB0F, ["0zM$i/2au"]),
  (0xB13, ["0zM$yh2b%2qN2q|2ly2m02w%2eT2e<2pw2p^2yZ2_Q2_W2hC2hK2xt2[e2]32gq2hj2wW"]),
  (0xB2A, ["0zM$zi2.f2cQ2dI2uC2#F2;c"]),
  (0xB32, ["0zM$r,2tP"]),
  (0xB35, ["0zM$|e2>F2@T2=I2nM"]),
  (0xB3C, ["0zM)yF2b*1|))aR3ow3o)3_^3|a3|#;a4<#"]),
  (0xB47, ["0zM|))i/3au"]),
  (0xB4B, ["0zM|))yh3b%1)|["]),
  (0xB55, ["0zM)z81ausxu81b%sxu8"]),
  (0xB5C, ["0zM$</2<P"]),
  (0xB5F, ["0zM$#,2|#<#3tO1|))|#r*4tO"]),
  (0xB66, ["0zMh:/S2y/2_z2]:2l42k/2?Y2=+2jU2x81pk1$~E1l8y/;U3nT2]:;V2y/?03jW2]:?1"]),
  (0xB82, ["0[;)b12|]"]),
  (0xB85, ["0[;$aI2aR2ow2o)2_^2|a"]),
  (0xB8E, ["0[;$i/2jF2au"]),
  (0xB92, ["0[;$yh2y(2b%2qN"]),
  (0xB99, ["0[;$w%2eT"]),
  (0xB9C, ["0[;$pw"]),
  (0xB9E, ["0[;$yZ2_Q"]),
  (0xBA3, ["0[;$xt2[e"]),
  (0xBA8, ["0[;$wW2xu2zi"]),
  (0xBAE, ["0[;$uC2#F2;c2</2r,2tP2tQ2|e2>F2@T2=I2nM"]),
  (0xBBE, ["0[;|))aR3ow3o)3_^3|a"]),
  (0xBC6, ["0[;|))i/3jF3au"]),
  (0xBCA, ["0[;|))yh3y(3b%1)|["]),
  (0xBD0, ["0[;y["]),
  (0xBD7, ["0[;b%sxu8"]),
  (0xBE6, [
    "0[;h:/S2y/2_z2]:2l42k/2?Y2=+2jU2x81yH]K2y/oi3]y1g+)1vs)1#2)1DEBIT )1gA)1b;aZ)1=C)1yH)"]),
  (0xC00, ["0]J)fse7aZ2e72b12|]2fsb1aZ1$aI2aR2ow2o)2_^2|a2|#;a3r*"]),
  (0xC0E, ["0]J$i/2jF2au"]),
  (0xC12, ["0]J$yh2y(2b%2qN2q|2ly2m02w%2eT2e<2pw2p^2yZ2_Q2_W2hC2hK2xt2[e2]32gq2hj2wW"]),
  (0xC2A, ["0]J$zi2.f2cQ2dI2uC2#F2;c2</2r,2tP2tQ2|e2>F2@T2=I2nM"]),
  (0xC3C, ["0]J)yF2b*1|))aR3ow3o)3_^3|a3|#;a4<#"]),
  (0xC46, ["0]J|))i/3jF3au"]),
  (0xC4A, ["0]J|))yh3y(3b%1)|["]),
  (0xC55, ["0]Jsxu81ausxu8"]),
  (0xC58, ["0]J$_A2i;2RRRA "]),
  (0xC5D, ["0]J$w6:V"]),
  (0xC60, ["0]J$|#<#3tO1|))|#r*4tO"]),
  (0xC66, ["0]Jh:/S2y/2_z2]:2l42k/2?Y2=+2jU2x8"]),
  (0xC77, [
    "0]J)>/1l8h:/SlWyo:bysl43y/lWyo:bysl43_zlWyo:bysl43]:lWyo:bysl43y/lWkJ:bysl43_zlWkJ:bysl43]",
    ":lWkJ:bysl41)TUUMU 0q5)?%e72e72b12|]2>/1$aI2aR2ow2o)2_^2|a2|#;a3r*"]),
  (0xC8E, ["0q5$i/2jF2au"]),
  (0xC92, ["0q5$yh2y(2b%2qN2q|2ly2m02w%2eT2e<2pw2p^2yZ2_Q2_W2hC2hK2xt2[e2]32gq2hj2wW"]),
  (0xCAA, ["0q5$zi2.f2cQ2dI2uC2#F2;c2</2r,2tP"]),
  (0xCB5, ["0q5$|e2>F2@T2=I2nM"]),
  (0xCBC, ["0q5)yF2b*1|))aR3ow3o)3_^3|a3|#;a4<#"]),
  (0xCC6, ["0q5|))i/3jF3au"]),
  (0xCCA, ["0q5|))yh3y(3b%1)|["]),
  (0xCD5, ["0q5sxu81ausxu8"]),
  (0xCDD, ["0q5$w6:V2k5"]),
  (0xCE0, ["0q5$|#<#3tO1|))|#r*4tO"]),
  (0xCE6, ["0q5h:/S2y/2_z2]:2l42k/2?Y2=+2jU2x8"]),
  (0xCF1, ["0q5)p#2|W"]),
  (0xD00, ["0uT)fsb1aZ2e72b12|]1$|pb12aI2aR2ow2o)2_^2|a2|#;a3r*"]),
  (0xD0E, ["0uT$i/2jF2au"]),
  (0xD12, [
    "0uT$yh2y(2b%2qN2q|2ly2m02w%2eT2e<2pw2p^2yZ2_Q2_W2hC2hK2xt2[e2]32gq2hj2wW2xu2zi2.f2cQ2dI2uC",
    "2#F2;c2</2r,2tP2tQ2|e2>F2@T2=I2nM2_31)|vcg|[2f1|[2b*1|))aR3ow3o)3_^3|a3|#;a4<#"]),
  (0xD46, ["0uT|))i/3jF3au"]),
  (0xD4A, ["0uT|))yh3y(3b%1)|[1$iXREPH 1)z]"]),
  (0xD54, ["0uT$fFt:3#D3LLL 1b%sxu81l8y/y!3lZ2]:jY2y/_o3]P2]:_p2y/kw1$boo)2|#<#3tO1|))|#r*4tO"]),
  (0xD66, [
    "0uTh:/S2y/2_z2]:2l42k/2?Y2=+2jU2x81yH]K2y/oi3]y1l8y/;U3nT2]:;V2y/?03jW2]:?11g*u81$fFxs3wT3",
    "<#3r*3tO3qM"]),
  (0xD81, ["0?L)e72ANUSVARAYA 2VISARGAYA "]),
  (0xD85, [
    "0?L$AYANNA 2AAYANNA 2AEYANNA 2AEEYANNA 2IYANNA 2IIYANNA 2UYANNA 2UUYANNA 2IRUYANNA 2IRUUYA",
    "NNA 2ILUYANNA 2ILUUYANNA 2EYANNA 2EEYANNA 2AIYANNA 2OYANNA 2OOYANNA 2AUYANNA "]),
  (0xD9A, [
    "0?L$a)qs2uOqs2a)l(2uOl(2KANTAJA wZ2=6l(2a)em2uOem2a)p=2uOp=2[iwZ3SANYOOGA NAAKSIKYAYA 2=6p",
    "=2a)_S2uO_S2a)hG2uOhG2wDwk2=6hG2a)[$2uO[$2a)g,2uOg,2g@wk"]),
  (0xDB3, ["0?L$=6g,2a).G2uO.G2a)cv2uOcv2MAYANNA 2AMBA cv2YAYANNA 2RAYANNA "]),
  (0xDBD, ["0?L$g@sb"]),
  (0xDC0, ["0?L$VAYANNA 2[i=i2wD=i2g@=i2HAYANNA 2wDsb2FAYANNA "]),
  (0xDCA, ["0?L)AL-LAKUNA "]),
  (0xDCF, ["0?L|))ak3q>af3hzaf3q>pe3hzpe3q>zk"]),
  (0xDD6, ["0?L|))hzzk"]),
  (0xDD8, ["0?L|))l<3re3hzre3KOMBU DEKA 3renNak5hzak5l)3l)"]),
  (0xDE6, ["0?LLITH h:/S3y/3_z3]:3l43k/3?Y3=+3jU3x8"]),
  (0xDF2, ["0?L|))hzl<4l)1:[KUNDDALIYA "]),
  (0xE01, [
    "0]5e]raqY2rDq/3KHUAT 3KHWAI 3KHON 3RAKHANG 2xNNGU 2fICHAN 3CHING 3CHANG 2?y?y2fICHOE 2#sYI",
    "NG 2iICHADA 2^1PATAK 2]t]83NANGMONTHO 3PHUTHAO 2xvw<2iIDEK 2^1TAO 2]tTHUNG 3THAHAN 3]u2xvy",
    "A2deBAIMAI 2:K.+2.nPHUNG 2lMk52.nPHAN 2lMkc2.nSAMPHAO 2veuC2#s#N2<tRUA 2<(2tRtA2tf2~wWAEN ",
    "2?ySALA 3RUSI 3@=2oNoC2tRCHULA 2yhbL2oNNOKHUK 2PAIYANNOI 2=9aI2uQHAN-AKAT 2=9aR3bD3ow3o)3_",
    "&3UEE 3_^3|a2PHINTHU "]),
  (0xE3F, [
    "0]5g3[8BAHT 1e]=9i/3ad3yh3auMAIMUAN 4MAIMALAI 2LAKKHANGYAO 2MAIYAMOK 2MAITAIKHU 2uQj23]t3T",
    "RI 3CHATTAWA 2THANTHAKHAT 2NIKHAHIT 2YAMAKKAN 2FONGMAN 1h:/S2y/2_z2]:2l42k/2?Y2=+2jU2x81e]",
    "ANGKHANKHU 2KHOMUT "]),
  (0xE81, ["0sZ$ra2rD[D"]),
  (0xE84, ["0sZ$rD[:"]),
  (0xE86, ["0sZ$zwm02xN2fo2zwe<2?y[:"]),
  (0xE8C, [
    "0sZ$zwp^2yc2zwyZ3_Q3_W3hC3hK3xt2iI2^12]t[D3[:2zwhj2xv2de2:K2.n[D2lM[:2.n[:2lM[D2zwdI2ve2#s",
    "2tRtA"]),
  (0xEA5, ["0sZ$tRt4"]),
  (0xEA7, [
    "0sZ$~w2SANSKRIT >F3@T2?y[D2oN[D2zwtP2yh2oN[:1jc1|))aI3uQq33aR3bD3ow3o)3#D3#+3_^3|a1)zw|[1|",
    "))uQrg1SEMIVOWEL )tR3yc"]),
  (0xEC0, ["0sZ|))i/3jS3yh3cE3au"]),
  (0xEC6, ["0sZrar,"]),
  (0xEC8, ["0sZ^5uQj23]t3]^3CATAWA 1e5u81NIGGAHITA "]),
  (0xED0, ["0sZh:/S2y/2_z2]:2l42k/2?Y2=+2jU2x8"]),
  (0xEDC, ["0sZoNxv2ve1$KHMU mp3yc"]),
  (0xF00, [
    "0]_[7y[1u8m##nvJTRUNCATED aI5aH<qc;uC6m#_HuC2pQ#nvJu:uC2fg#nvJ>CuC2ec#nvJ.r>JuC2#nvJ_H>JuC",
    "2SBRUL >J2BSKUR #nvJ2BKA- >o#nvJ2INTERSYLLABIC _H2h3_HBSTAR 2>J2ya>J2_H>J2ya_H>J2RIN CHEN ",
    "SPUNGS >J2<Mmy>J2ecaD<&u;tYe22m#_H1LOGOTYPE )CHAD <&3LHAG <&1b|)SGRA GCAN aC<&3aFzi3SDONG ",
    "TSHUGS 1);:iGmE4mo4m~3w3mE4mo3iG;:w31h:/S2y/2_z2]:2l42k/2?Y2=+2jU2x82nTy/3_z3]:3l43k/3?Y3=",
    "+3jU3x83/S1u8BSDUS <&2w(eQy7/82ecaD<&ePvZe22w(eQSGOR <&2e/vJ2_AaG2GUG <&nK4nJ2bLKHANG nK4n",
    "J1)#U_I2u5_I1$qN2q|2ly2m02w%2eT2e<2pw"]),
  (0xF49, [
    "0]_$yZ2_Q2_W2hC2hK2xt2[e2]32gq2hj2wW2zi2.f2cQ2dI2uC2_A2_F2i;2i?2~E2/U2/B2aA2#F2;c2r,2>F2@T",
    "2=I2nM2aI2r.2k!;c2rX2</"]),
  (0xF71, [
    "0]_|))aR3ow3o)3_^3|a3|#;a4<#4r*4tO3i/3jF3yh3y(1)RJES @<w%<t2<qc;1|))<Kow4o)1)y7/8wYgq2SNA ",
    "LDAN 1u8nS2PALUTA 1)LCI <&2#R<&2sd_Ae22u.e22GRU e2<O3MED <O2p5u.e21@?)sd_Ae23u.e23p5u.e22$",
    "qN3q|3ly3m03w%3eT3e<3pw"]),
  (0xF99, [
    "0]_@?$yZ3_Q3_W3hC3hK3xt3[e3]33gq3hj3wW3zi3.f3cQ3dI3uC3_A3_F3i;3i?3~E3/U3/B3aA3#F3;c3r,3>F3",
    "@T3=I3nM3aI3r.3k!~E4#F4;c"]),
  (0xFBE, [
    "0]_r:<(q|4ePvZe21CANTILLATION )nxc@3s%c@3CANG TE-U 3SBUB aB1[8DRIL d&2;;<p2PADMA GDAN 2;;<",
    "p<Mmy2.rzi2x.d&4yaaE4m~aE4ePaE"]),
  (0xFCE, [
    "0]_);:w3;:iG4m~1u8BSKA- >ombvJ<N2MNYAM #nmbvJ<N2ya_H2pQd?<s#nvJu:uC2fgd?<s#nvJ>CuC0<c[R)0s",
    "m[R)0<c[R)!iZ0sm[R)!iZ0]_u8LEADING uz<&2TRAILING uz<&"]),
  (0x1000, [
    "0wR$qN2q|2ly2m02w%2eT2e<2pw2p^2yZ2NNYA 2_Q2_W2hC2hK2xt2[e2]32gq2hj2wW2zi2.f2cQ2dI2uC2#F2;c",
    "2r,2~E2=I2nM2tP2aI2>QaI2ow2o)2_^2|a2i/2vii/2yh2b%1|))[zaR3aR3ow3o)3_^3|a3i/3au3vio)4yh3i/a",
    "Z1)b12iXc&2|]2|[2ASAT 1f=)u@#F4;c4~E4nM1$m;=I1h:/S2y/2_z2]:2l42k/2?Y2=+2jU2x81)tJ=x2=x1[8L",
    "OCATIVE 2COMPLETED 2AFOREMENTIONED 2GENITIVE 1$>F2@T2|#;a3<#3r*3tO1|))|#;a4<#4r*4tO1$viw%3",
    "p^3cw3cx1f=)viu@wW5uC5r,1$>Dqf>F1|))>DqfkF1^5u8>DqfHATHI 5qt.n1$~c:&qf]35:~1|))~c:&qfkF6_&"]),
  (0x106E, [
    "0wR$i+:&qfxt5#!5GHWA 1|))GEBA qfow3qryp4_^4jF1$>QqN3q|3ly3eT3/B3yZ3gq3wW3.f3k53cQ3]33nM1f=",
    ")>Qu@~E1|))>QaR4i/5aZ4k=#D1)>Q^73^83^a3^b3COUNCIL ^74^84EMPHATIC ^51$=Azvk51)=Azv^a1>Qh:/S",
    "3y/3_z3]:3l43k/3?Y3=+3jU3x81)q$^63^81|))ayaI4au1[8>Qy/3kN0mL($bH3cd3l^3iT3jk3|>3/R3[=3pF3q",
    "33s43uW3wc3y~3z[3/V3;m3=23[]3|I3.h3q&3m43;E3>h3fG3e23p!3fU3e[3~&3p_3nO3no3n%3~33nf3oP"]),
  (0x10C7, ["0mL($#r"]),
  (0x10CD, ["0mL($al"]),
  (0x10D0, [
    "0mL$bH2cd2l^2iT2jk2|>2/R2[=2pF2q32s42uW2wc2y~2z[2/V2;m2=22[]2|I2.h2q&2m42;E2>h2fG2e22p!2fU",
    "2e[2~&2p_2nO2no2n%2~32nf2oP2kt2#r2ja2_fl^2av1z^=!0vh$mLwc0mL$al2ng)2sC)0ncfKrT2@X2xW2]%2@2",
    "2<V2vU2.y2@Z2?N2@12o!2fT2@U2fD2rB2]k2.l2n(2xZ2@Y2x22NIEUN-PIEUP 2](2<22@02<W2qd2vX2qa2.;2P",
    "IEUP-NIEUN 2.[2.=2.>2.?2PIEUP-SIOS-PIEUP 2PIEUP-SSANGSIOS 2PIEUP-SIOS-CIEUC 2..2.z2.@2.<2q",
    "c2qe2?R2?T2?X2?V2?S2?U2SIOS-PIEUP-KIYEOK 2SIOS-SSANGSIOS 2SIOS-IEUNG 2?P2?O2SIOS-KHIEUKH 2",
    "?W2SIOS-PHIEUPH 2?Q2CHITUEUMSIOS 2CHITUEUMSSANGSIOS 2CEONGCHIEUMSIOS 2CEONGCHIEUMSSANGSIOS",
    " 2z=2o$2IEUNG-TIKEUT 2IEUNG-MIEUM 2IEUNG-PIEUP 2IEUNG-SIOS 2IEUNG-PANSIOS 2@W2IEUNG-CIEUC ",
    "2IEUNG-CHIEUCH 2IEUNG-THIEUTH 2IEUNG-PHIEUPH 2#d2CIEUC-IEUNG 2CHITUEUMCIEUC 2CHITUEUMSSANG",
    "CIEUC 2CEONGCHIEUMCIEUC 2CEONGCHIEUMSSANGCIEUC 2CHIEUCH-KHIEUKH 2CHIEUCH-HIEUH 2CHITUEUMCH",
    "IEUCH 2CEONGCHIEUMCHIEUCH 2.m2qb2@V2#92KIYEOK-TIKEUT 2x12xX2xY2]*2k;1qKk;2aI2ad2#F2#I2j.2i",
    "/2#82#12yh2~E2~G2yp2#s2_^2~92~32~j2#=2kF2#k2ow2A-O 2A-U 2YA-O 2#G2EO-O 2EO-U 2EO-EU 2YEO-O",
    " 2YEO-U 2O-EO 2O-E 2O-YE 2O-O 2O-U 2#u2#v2YO-YEO 2YO-O 2#t2U-A 2U-AE 2U-EO-EU 2U-YE 2U-U 2",
    "YU-A 2YU-EO 2YU-E 2#@2#?2YU-U 2#>2EU-U 2EU-EU 2YI-U 2I-A 2I-YA 2I-O 2I-U 2I-EU 2I-ARAEA 2b",
    "k2ARAEA-EO 2ARAEA-U 2ARAEA-I 2SSANGARAEA 2A-EU 2YA-U 2YEO-YA 2O-YA 2O-YAE 1qFrT2@X2rU2xW2x",
    "X2xY2]%2<V2<Z2<12<52<72<92<42<W2vU2.y2.=2?N2@12o!2fT2fD2rB2]k2.l2n(2KIYEOK-RIEUL 2KIYEOK-S",
    "IOS-KIYEOK 2xZ2x22x12x02NIEUN-THIEUTH 2](2]*2<02<22<a2RIEUL-TIKEUT-HIEUH 2@02RIEUL-MIEUM-K",
    "IYEOK 2RIEUL-MIEUM-SIOS 2<62RIEUL-PIEUP-HIEUH 2<X2RIEUL-SSANGSIOS 2<32<Y2<b2vV2MIEUM-RIEUL",
    " 2vX2vY2MIEUM-SSANGSIOS 2vW2MIEUM-CHIEUCH 2MIEUM-HIEUH 2qa2PIEUP-RIEUL 2.<2.:2qc2?R2?X2?V2",
    "?U2z=2o$2IEUNG-SSANGKIYEOK 2@W2IEUNG-KHIEUKH 2#d2#f2#e2.m2qb2HIEUH-NIEUN 2HIEUH-RIEUL 2HIE",
    "UH-MIEUM 2HIEUH-PIEUP 2#92KIYEOK-NIEUN 2KIYEOK-PIEUP 2KIYEOK-CHIEUCH 2KIYEOK-KHIEUKH 2KIYE",
    "OK-HIEUH 2@Y0kD[7nM2oc2n$2nN2nz2no2oN2HOA 2r,2tf2s#2sA2si2se2tR2tq2n#2HHU 2HHI 2n/2HHEE 2H",
    "HE 2HHO 2n!2uC2v|2vL2uD2u^2u;2ve2wH2SZA 2SZU 2SZI 2SZAA 2SZEE 2SZE 2SZO 2SZWA 2;c2<(2<R2;e",
    "2;~2;<2<t2=D2=I2@<2>~2=J2=y2=s2?y2[U2>F2>;2>b2>I2>02>Z2>m2>>2:+2;P2;H2:,2QEE 2;G2;K2QOA 2Q",
    "WA "]),
  (0x124A, ["0kD[7;92QWAA 2;82;7"]),
  (0x1250, ["0kD[7QHA 2QHU 2QHI 2QHAA 2QHEE 2QHE 2QHO "]),
  (0x1258, ["0kD[7QHWA "]),
  (0x125A, ["0kD[7QHWI 2QHWAA 2QHWEE 2QHWE "]),
  (0x1260, [
    "0kD[7cQ2d&2dN2cR2c]2c<2de2eK2|e2|+2|.2|f2|q2|n2|~2VWA 2[e2_52]^2[h2]B2[*2^12_j2eT2gQ2fS2eU",
    "2eu2er2fo2gb2~%2XU 2~*2XAA 2XEE 2~(2~+2XOA 2XWA "]),
  (0x128A, ["0kD[7XWI 2XWAA 2XWEE 2XWE "]),
  (0x1290, [
    "0kD[7wW2yA2xU2wY2wz2wx2xv2yR2yZ2ye2y72y02y32y22yc2NYWA 2mnaI3_^3ow3aR3jF3i/3yh3~E2qN2r:2rH",
    "2qP2qu2qt2ra2KOA 2r_"]),
  (0x12B2, ["0kD[7r/2r|2r#2r~"]),
  (0x12B8, ["0kD[7r&2KXU 2KXI 2KXAA 2KXEE 2KXE 2KXO "]),
  (0x12C0, ["0kD[7KXWA "]),
  (0x12C2, ["0kD[7KXWI 2KXWAA 2KXWEE 2KXWE "]),
  (0x12C8, ["0kD[7~E2~|2~j2~F2~62~32~w2WOA 2.iaI3_^3ow3aR3jF3i/3yh"]),
  (0x12D8, [
    "0kD[7/B2/d2/32/D2/O2/N2/a2ZWA 2/U2/12/Y2ZHAA 2/X2/W2/02ZHWA 2#F2#=2#k2#H2#32#12#s2YOA 2gq2",
    "in2hm2gr2hW2hR2iI2DWA 2hC2hP2hN2hD2DDEE 2hJ2hO2DDWA 2pw2qJ2p~2px2p?2p>2qA2qL2ly2m/2mb2l.2m",
    "H2mF2mp2GOA 2nF"]),
  (0x1312, ["0kD[7nI2GWAA 2nH2nG"]),
  (0x1318, [
    "0kD[7mT2mY2mV2GGAA 2GGEE 2mU2mW2GGWAA 2]32]=2]j2]42]a2]92]t2][2e<2fQ2fB2e=2e%2e/2fI2CHWA 2",
    ".f2PHU 2.k2.g2PHEE 2.j2.n2PHWA 2_A2_M2_J2TSAA 2_E2_D2_K2TSWA 2TZA 2TZU 2TZI 2TZAA 2TZEE 2T",
    "ZE 2TZO 2TZOA 2k52lm2kt2k62kk2ki2lM2lt2zi2:=2.s2zj2.O2.I2:K2:~2RYA 2wQ2FYA "]),
  (0x135D, [
    "0kDfsmI*|)sxu82|)sxu82mIu81=xu81WORDSPACE 1lo@q1ft1=_1fr1PREFACE fr1;Yu81z^=!1h:y/2_z2]:2l",
    "42k/2?Y2=+2jU2x81yH]K2_q2]q2l02ky2?42>A2jZ2xa2oi2]K]y"]),
  (0x1380, [
    "0kD[7=uwH2wL2wK2wJ2=ueK2eM2eL2BWE 2=ult2lw2lv2FWE 2=u:~2:$2:!2:/1^4u8YIZET 3DERET 3<j3>u<j",
    "3DIFAT 3KENAT 3CHIRET 3HIDET 3DERET-HIDET 3KURT "]),
  (0x13A0, [
    "0e*$aI2i/2ow2yh2_^2|d2ly2qN2mF2mb2mp2m/2nE2nM2no2n$2oN2oc2ol2r,2se2s#2tR2tf2tp2uC2u;2vL2ve",
    "2v|2wW2oM2w52wx2xU2xv2yA2yQ2;Q2;W2;Z2;22;52;62=I2=G2=s2>~2?y2@<2[P2gq2[e2hR2[*2hm2]^2iI2in",
    "2iv2iH2^R2^S2^X2^Y2^Z2^02_A2_D2_J2_K2_M2_N2~E2~32~j2~w2~|2~/2#F2#12#k2#s2#=2#/2wE"]),
  (0x13F8, ["0e*%$#13#k3#s3#=3#/3wE"]),
  (0x1400, [
    "0e3[6os2i/2aS2ow2o)2yh2y(2#Ey(2efjF3ow2aI2aR2~32~b~32~j2~b~j2~o2~b~o2~w2~b~w2~:2~b~:2wh~:2",
    "~E2~b~E2~F2~b~F2wh~F2au2#E~D2mn@q2k=a83m:3dvnT<k3^inT<k3,nT<k3<k3i1a84>u|v@.3vQiX3>uo0@z3:",
    "G3i7[m2jk2pF2y~2bH2.I2PAAI 2.s2.^2:K2:Y2#E:Y2efnz3n$2zi2zj2:/2~b:/2:$2~b:$2:%2~b:%2:&2~b:&",
    "2:(2~b:(2:~2~b:~2:#2~b:#2#E:#2zh2~bzh2efnL2[*2TAAI 2]^2TII 2^12^g2#E^g2efhW3hm2[e2[h2_l2~b",
    "_l2_x2~b_x2_y2~b_y2_z2~b_z2_<2~b_<2_j2~b_j2_k2~b_k2wh_k2[d2_T2_12_22_Q2qt2KAAI 2rH2KII 2ra",
    "2ri2#Eri2qN2qP2r~2~br~2r/2~br/2r!2~br!2r$2~br$2r%2~br%2r_2~br_2r|2~br|2whr|2qM2r^2SOUTH-SL",
    "AVEY qw3KIH 3KOH 3qX2er2CAAI 2fS2CII 2fo2f~2#Ef~2eT2eU2gd2~bgd2ge2~bge2gf2~bgf2gg2~bgg2gh2",
    "~bgh2gb2~bgb2gc2~bgc2whgc2eR2=j]22u;2MAAI 2vL2MII 2ve2vt2#Evt2uC2uD2wJ2~bwJ2wL2~bwL2wM2~bw",
    "M2wN2~bwN2wO2~bwO2wH2~bwH2wI2~bwI2whwI2t:2~bt:2MH 2b/t:2=jt:2wx2NAAI 2xU2x42xv2xy2#Exy2wW2",
    "wY2yT2~byT2yR2~byR2yS2~byS2whyS2wT2efw$2NH 2se2LAAI 2s#2LII 2tR2t12#Et12r,2sA2ts2~bts2tt2~",
    "btt2tu2~btu2tv2~btv2tw2~btw2tq2~btq2tr2~btr2r*2~br*2u@r*2=s2SAAI 2>~2>,2?y2?[2#E?[2=I2=J2[",
    "Y2~b[Y2[12~b[12[22~b[22[42~b[42[52~b[52[U2~b[U2[V2~b[V2wh[V2=G2b/=G2[T2d4=G2MOOSE-CREE SK ",
    "2whSKW 3S-W 3SPWA 3STWA 3SKWA 3SCWA 2>Z2>b2>e2>m2>q2>F2>I2>@2~b>@2>[2~b>[2>]2~b>]2>^2~b>^2",
    ">_2~b>_2>>2~b>>2>?2~b>?2>E2#12YAAI 2#k2YII 2#s2#z2#E#z2#F2#H2#%2~b#%2#&2~b#&2#(2~b#(2#)2~b",
    "#)2#*2~b#*2#!2~b#!2#$2~b#$2wh#$2#D2BIBLE-CREE #D2~b#D2=j#k2;<2;b;<2~bse2RAAI 2<R2<i2<t2<<2",
    "~btR2;c2;e2~br,2=E2~b=E2;a2~b;a2u@;a2ki2FAAI 2kt2FII 2lM2lR2k52k62lu2~blu2k42]92wV]92]j2wV",
    "]j2]l2wV]l2]t2]v2]32]42]]2~b]]2]22_Y2_Z2_02_W2TTH 2TYE 2TYI 2TYO 2TYA 2NUNAVIK no3n$3n+3oN",
    "3oW3nM3nN3nL2NUNAVUT nL2HK 2QAAI 2;H2;I2;K2;M2:+2:,2:*2^U2^V2^W2^T2~b;<3<R3<t3;c2NGAAI 2xJ",
    "2NGII 2xN2NGOO 2w%2w&2w$2NNG 2=j>Z3>b3>m3>F2~<]93]j3]t3]33]22s|2LHII 2s~2LHOO 2s^2s_2s]2TH",
    "-CREE ]93]j3]l3]t3]v3]33]43]22AIVILIK cL2d4i/3ow3yh3aI3~33~j3~w3~E3wx3xU3xv3wW3qt3rH3ra3qN",
    "2=jno3n$3oN3nM2efGHU 3m83m53GHEE 3GHI 3m03<(3<t3;<3;~3<R3;c3~|3~w3~33~63~j3~E3HWU 3HWO 3on",
    "3HWEE 3HWI 3HWA 3]=3]t3]93]a3]j3]33TTU 3_23_T3TTEE 3_13_Q3:=3:K3.I3.O3.s3zi3zh3m/3mp3mF3mH",
    "3mb3ly3KHU 3rD3q)3KHEE 3rA3q|3KKU 3KKO 3KKE 3KKEE 3KKI 3rX3rW3yA3xv3wx3wz3xU3wW3v|3ve3u;3u",
    "^3vL3uC3#=3#s3#13#33#k3#F3qJ2=jqJ2efqA3p>3p?3p~2=jp~2efpw3p)3p(3JJE 3JJEE 3p%3p$3tf3tR3se3",
    "si3s#3r,3DLU 3DLO 3DLE 3DLEE 3DLI 3iH3LHU 3s~3LHE 3LHEE 3s|3s^3TLHU 3^W3^U3TLHEE 3^V3^T3^Z",
    "3^Y3^S3TLEE 3^X3^R3/d3/a3/N3/O3/33/B3/A3pQ/A3i_3i^3i<3i=3i[3i;3@<3?y3=s3=y3>~3=I3>;3>m3>Z3",
    ">03>b3>F3>E3_M3_K3_D3_E3_J3_A3fQ3fI3e/3e%3fB3e<3TTSU 3TTSO 3TTSE 3TTSEE 3TTSI 3TTSA 2fB)2l",
    "o@q2;C2NGAI 2NNGI 2NNGII 2NNGO 2NNGOO 2NNGA 2NNGAA 2~<THWEE 3THWI 3THWII 3THWO 3THWOO 3][3",
    "]]3k=]22d4~D0OGHAM ?$u81$BEITH 2LUIS 2FEARN 2SAIL 2NION 2UATH 2DAIR 2TINNE 2COLL 2CEIRT 2M",
    "UIN 2GORT 2NGEADAL 2STRAIF 2RUIS 2AILM 2y%2|22EADHADH 2IODHADH 2EABHADH 2zH2UILLEANN 2IFIN",
    " 2EAMHANCHOLL 2PEITH 1kju81<Kkju8"]),
  (0x16A0, [
    "0RUNIC $FEHU FEOH kik42|d2URUZ |2_^2#<2#D2~D2THURISAZ THURS ]w2kC2ANSUZ aI2zPyh2a0aI2am2LO",
    "NG-BRANCH-OSS yh2SHORT-TWIG-OSS yh2yh2yp2y~2RAIDO ;iREID ;a2KAUNA 2CEN 2KAUN qM2lx2jq2GEBO",
    " GYFU lx2l/2WUNJO ~!~D2HAGLAZ nL2HAEGL nL2LONG-BRANCH-HAGALL nL2SHORT-TWIG-HAGALL nL2NAUDI",
    "Z NYD NAUD wT2SHORT-TWIG-NAUD wT2DOTTED-N 2ISAZ pdISS ow2i/2JERAN pu2GER 2LONG-BRANCH-AR a",
    "d2SHORT-TWIG-AR aI2IWAZ EOH 2PERTHO PEORTH zh2ALGIZ EOLHX 2SOWILO =G2SIGEL LONG-BRANCH-SOL",
    " =G2SHORT-TWIG-SOL =G2eR2/A2TIWAZ ^JTYR [d2SHORT-TWIG-TYR [d2gp2BERKANAN BEORC BJARKAN cL2",
    "SHORT-TWIG-BJARKAN cL2DOTTED-P 2OPEN-P 2EHWAZ jMi/2MANNAZ uWt:2LONG-BRANCH-MADR t:2SHORT-T",
    "WIG-MADR t:2LAUKAZ LAGU LOGR r*2DOTTED-L 2INGWAZ 2pN2DAGAZ DAEG gp2OTHALAN ETHEL yh2i&2IOR",
    " 2CWEORTH 2CALC 2CEALC 2STAN 2LONG-BRANCH-YR 2SHORT-TWIG-YR 2ICELANDIC-YR 2:*2~$1?J:[1v(:[",
    "1gG:[1ARLAUG [81TVIMADUR [81BELGTHOR [81$qM2>E2y(2FRANKS CASKET zP4pd4jM4a04am"]),
  (0x1700, ["0[p$aI2ow2_^2qN2ly2w%2[e2gq2wW2zi2cQ2uC2#F2;c2r,2~E2=I2nM1|))ow3_^1)|[2z:"]),
  (0x171F, [
    "0[p$bo;c0HANUNOO $aI2ow2_^2qN2ly2w%2[e2gq2wW2zi2cQ2uC2#F2;c2r,2~E2=I2nM1|))ow3_^1)z:0PHILI",
    "PPINE ?J:[1i1:["]),
  (0x1740, ["0BUHID $aI2ow2_^2qN2ly2w%2[e2gq2wW2zi2cQ2uC2#F2;c2r,2~E2=I2nM1|))ow3_^"]),
  (0x1760, ["0[q$aI2ow2_^2qN2ly2w%2[e2gq2wW2zi2cQ2uC2#F"]),
  (0x176E, ["0[q$r,2~E2=I"]),
  (0x1772, ["0[q|))ow3_^"]),
  (0x1780, [
    "0rC$qN2q|2ra2rD2xN2eT2e<2fo2fI2yc2gq2_W2iI2_02NNO 2[e2]32^12]t2xv2cQ2.f2:K2.n2ve2#s2<t2tR2",
    "|~2>F2@52=I2nM2r,2:+1pH|)QAQ 3:,3;H3;I3;P3QUK 3;53QUUV 3=F3RYY 3tx3LYY 3;G3;C3;M_=y/5_z3QA",
    "U 1|)INHERENT bf3aR2)aR3ow3o)3#D3#+3_^3|a3_~3yp3#F3o/3i/3ad3au3y(3b%1)NIKAHIT 2REAHMUK 2YU",
    "UKALEAPINTU 2MUUSIKATOAN 2TRIISAP 2BANTOC 2ROBAT 2TOANDAKHIAT 2KAKABAT 2AHSDA 2SAMYOK SANN",
    "YA 2VIRIAM 2COENG 2BATHAMASAT 2KHAN 2BARIYOOSAN 2CAMNUC .^KUUH 2sv^g2BEYYAL 2PHNAEK v#2KOO",
    "MUUT 1g3[8RIEL 1)AVAKRAHASANYA 2ATTHACAN "]),
  (0x17E0, ["0rCh:/S2y/2_z2]:2l42k/2?Y2=+2jU2x8"]),
  (0x17F0, ["0rC[8svATTAK SON 4v*4.^4c$4eE4:c4:f4:g4:d4:e"]),
  (0x1800, [
    "0vkdX1jc1ft1lo@q1fr1l4iZ1^2?;os1>#[7BOUNDARY uc1uXft2lo@q1NIRUGU 1lb|l=>y/4_z4]:1|)=!1lb|l",
    "=>l41h:/S2y/2_z2]:2l42k/2?Y2=+2jU2x8"]),
  (0x1820, [
    "0vk$aI2i/2ow2yh2_^2yp2_&2jF2wW2bL2cQ2zi2:+2ly2uC2r,2=I2>F2[e2gq2e<2pw2#F2;c2~E2k52qN2q|2_A",
    "2/B2nN2ZRA 2s^2/Y2fB2^2tY|))3i/3ow3yh3_^3yp3_&3bL3cQ3zi3:+3ly3uC3[e3gq3e<3pw3_A3#F3~E3qN3l",
    ".3nN3JIA 3NIA 3i;2>#i/3ow3pq3_&3_^3bL3qN3ly3nM3zi3>F3[e3gq3pw3k53l.3nN3_A3/B3;e3e<3/U2uXow",
    "3qN3;c3k53/U2e<!_ziZ"]),
  (0x1880, [
    "0vk$a|l@b1y/4|]y/4DAMARU 4_/4p5_/4c94]:c94aI4ow4qN4w%4eT4_Q4_W4hC4xt4[e4gq4zi4.f4@T4/U4/B4",
    "as2^2a|l@[e5/U2uXa|l@m05w%5eT5p^5_Q5hK5[e5hj5@T5gj5/U5/B2a|l@nT_^5#F2uXa|l@dI2a|l@DAGALGA ",
    "2uXa|l@s^"]),
  (0x18B0, [
    "0e3[6zf2cE2aU2~12POY 2PAY 2PWOY 2TAY 2qq2KWAY 2uj2NOY 2NAY 2LAY 2SOY 2=h2>x2SHAY 2SHWOY 2Y",
    "OY 2#Y2;z2yU2y.yU2yV2y.yV2yW2y.yW2yX2y.yX2RWEE 2RWI 2RWII 2RWO 2RWOO 2=D2y.zh3[d3qM3eR3t:3",
    "wT3=G3>E2i+~D2~c~D2k=%<k3;qiX2;bRWE 2~bt13sA2THWE 2][2TTHWE 2TTHOO 2_X2TLHWE 2TLHOO 2=j>@3",
    ">q3oW2efGWU 3h6mH3l.3nF2=jJUU 2efqL2c[h6r*4;a2efh8=G"]),
  (0x1900, [
    "0s(VOWEL-CARRIER $1$qN2q|2ly2m02w%2eT2e<2pw2p^2#Q2[e2]32gq2hj2wW2zi2.f2cQ2dI2uC2#F2;c2r,2~",
    "E2>F2@T2=I2nM2GYAN 2^t"]),
  (0x1920, ["0s(|))aI3ow3_^3jF3au3y(3b%3i/3yh1@?$#F3;c3~E"]),
  (0x1930, ["0s(%$qN3w%3b13[e3wW3zi3uC3;c3r,1)MUKPHRENG 2KEMPHRENG 2SA-I "]),
  (0x1940, ["0s()t1"]),
  (0x1944, [
    "0s(kNu81;Yu81h:/S2y/2_z2]:2l42k/2?Y2=+2jU2x80[sse$qN3~%3w%3_A3=I3#F3[e3]33r,3zi3.f3uC3k53|",
    "e3nM3:+3q|3_F3wW3aI3ow3jF3jM3_^3y(3yh3_&3i/3b&3au"]),
  (0x1980, [
    "0w~[sti$n):+4t8:+4n)qN5~%5w%4t8qN5~%5w%4n)_A5=I5#F4t8_A5=I5#F4n)[e5]35wW4t8[e5]35wW4n)zi5.",
    "f5uC4t8zi5.f5uC4n)k55|e5r,4t8k55|e5r,4n)nM5gq5cQ4t8nM5gq5cQ4n)r]5~,4t8r]5~,4n)@=4t8@="]),
  (0x19B0, [
    "0w~[sti|))|)SHORTENER 5aR5o)5_^5|a5i/5ad5yh5yi5_&5cE5aU5|c5zf5yj5UEY 5pq3$k=|d5w$5wT5t:5qM",
    "5gp5cL3^5u94ua"]),
  (0x19D0, ["0w~[stih:/S4y/4_z4]:4l44k/4?Y4=+4jU4x83]7h:y/"]),
  (0x19DE, [
    "0w~[sti)sE4LAEV 0rC[8PATHAMASAT 2v*rb2.^rb2c$rb2eErb2:crb2:frb2:grb2:drb2:erb2g[rb2g_rb2g|",
    "rb2g]rb2g^rb2g~rb2TUTEYASAT 2v*<u2.^<u2c$<u2eE<u2:c<u2:f<u2:g<u2:d<u2:e<u2g[<u2g_<u2g|<u2g",
    "]<u2g^<u2g~<u0d+$qN2ly2w%2xK2zi2cQ2uC2v[2[e2gq2wW2x#2eT2pw2yZ2NYCA 2#F2;c2r,2|e2=I2aI2nM1|",
    "))ow3_^3i/3yh3ad"]),
  (0x1A1E, [
    "0d+PALLAWA 1jpys=x0[s]7$n)qN4q|4r&3t8qN4r&4q|3w%3n)eT4e<3t8eT4=I4e<3yZ3RATA 3n);y3gq3t8;y3",
    ";u3n)[e4]33t8[e4]33wW3cQ3n)zi4.f4k53t8zi4k54.f3uC3t8#F3n)#F3;c3RUE 3r,3ti3~E3n)>F4@T4=I4nM",
    "3tP3aI3t8nM3ow3o)3_^3|a3jF3y(3sE3m;=I2f=)u@;c5r,4r,TANG sH2)uQq4sH2f=)k=w%4t8zi4n);yzHt8zi",
    "4uC4cQ4=I"]),
  (0x1A60, [
    "0[s]7)SAKOT 2|))aI4uQ=c4aR4[zaR4ow4o)4_&4|b4_^4|a4yh4yic&4zf4i/4ad4y(4au4]7au4yiaZ2)uQq43^",
    "63^73KHUEN ^84^94^a3;cHAAM 3uQ=X3KHUEN-LUE KARAN "]),
  (0x1A7F, ["0[s]7fsgPiX2HORA h:/S4y/4_z4]:4l44k/4?Y4=+4jU4x8"]),
  (0x1A90, ["0[s]7]7h:/S4y/4_z4]:4l44k/4?Y4=+4jU4x8"]),
  (0x1AA0, [
    "0[s]7)WIANG 3WIANGWAAK 3SAWAN 3KEOW 3HOY 3DOKMAI 3<K<@;u3uQYAMOK 3KAAN 3KAANKUU 3SATKAAN 3",
    "SATKAANKUU 3HANG 3CAANG "]),
  (0x1AB0, [
    "0fsi5f2a21DIAERESIS-RING 1pL1i9+1^~iX1X-X c&1~ns*c&1y,u8c&1i1y,u8c&1s%ex@zc&1@:ex@zc&1z$aZ",
    "1i1z$aZ1z$c&2z71s7%$~Dc&4_f~Dc&1slz%aZsl1,z%aZ,1slz%c&sl1,z%c&,1@KBRACKETS aZ1yH)aZ1p5i1bn",
    "aZ1:G)aZ1i1:G)aZ4c&1^~a8a21s7%$pWlx5;a5[d"]),
  (0x1B00, [
    "0c4)|ERICEM 3e62CECEK 2[K2BISAH 1$AKARA 3]A2IKARA 3]A2UKARA 3]A2;c;*4]A2r,sw4]A2EKARA 2AIK",
    "ARA 2OKARA 3]A2qN3uP2ly3GORA 2w%2eT3LACA 2pw3JERA 2yZ2[eLATIK 3v+uP2gqv+ALPAPRANA 4uP2wWRA",
    "MBAT 2[e3TAWA 2gq3MADU 2wW2zi3KAPAL 2cQ3KEMBANG 2uC2#F2;c2r,2~E2=ISAGA 3SAPA 32nM1)REREKAN",
    " 1|))]A3|E4=a3@)4ILUT 3;c;*5]A3r,sw5]A3[y4;*4]A4;*]A3.Z4]A1aaaa1$qW=b2KHOT =b2TZIR =b2jG=b",
    "2|n=b2/H=b2ASYURA =b2bop,"]),
  (0x1B50, [
    "0c4h:/S2y/2_z2]:2l42k/2?Y2=+2jU2x81z>1zz1~r1CARIK PAMUNGKAH 2SIKI 2PAREREN 1PAMENENG 1wC[8",
    "iU3DENG 3it3g?4[K3DING 3DAENG 3DEUNG 3DAING 3g?GEDE 3fsTEGEH 4ENDEP 4qz4qy4p[4qz!p[4qy!p[4",
    "BENDE 4GONG 3RIGHT-HAND y,ip5gu4ff_85TAK 3LEFT-HAND y,PANG 5PUNG 4ffPLAK 5PLUK 4y,.~1z>sY1",
    "zzsY"]),
  (0x1B80, [
    "0[C)PANYECEK 2PANGLAYAR 2PANGWISAD 1$aI2ow2_^2ad2yh2i/2kF2qN2:+2ly2w%2eT2pw2/B2yZ2[e2gq2wW",
    "2zi2k52|e2cQ2uC2#F2;c2r,2~E2=I2~%2nM1f=)PAMINGKAL 3PANYAKRA 3PANYIKU 1|))PANGHULU 3PANYUKU",
    " 3PANAELAENG 3PANOLONG 3PAMEPET 3PANEULEUNG 1)PAMAAEH 2|[1f=)PASANGAN uC4~E1$q|2SYA 1h:/S2",
    "y/2_z2]:2l42k/2?Y2=+2jU2x81b*1$REU 2s?2dI2k=qM3t:0cr$aI2?FaI2nM2?FnM2uZnM2cQ2qgcQ2zi2?Fzi2",
    "wW2uZwW2~E2?F~E2zt~E2ly2?Fly2pw2gq2;c2?F;c2uC2?FuC2?![e2x<[e2=I2?F=I2uZ=I2#F2?F#F2w%2r,2?F",
    "r,2yZ2eT2wm2um2ow2_^1)TOMPI 1|))i/3zti/3jF3ow3qgow3yh3qgyh3_^4lW?F=I1f=)w$3nL1z<1PANONGONA",
    "N "]),
  (0x1BFC, [
    "0cr[8dUwWMETEK 3PINARBORAS 3JUDUL 3z<0s:$qN2KLA 2q|2ly2GLA 2w%2eT2e<2pw2yZ2[e2]32gq2wW2zi2",
    ".+2.f2k52FLA 2cQ2BLA 2uC2vb2_A2_F2i;2#F2;c2r,2nM2oI2|e2=I2>F2~E2aI1@?$#F3;c1|))aR3ow3yh3y(",
    "3_^3|a3i/1f=)qM3t:3r*3wT3zh3;a3[d3NYIN-DO 3q41)RAN 2yF"]),
  (0x1C3B, ["0s::[[g2y5THYOOM [g2e:2TSHOOK e:31h:/S2y/2_z2]:2l42k/2?Y2=+2jU2x8"]),
  (0x1C4D, [
    "0s:$_Q2_W2hC0y<CHIKI h:/S3y/3_z3]:3l43k/3?Y3=+3jU3x82$r,3b#3ar3bL3a;3sA3AAK 3AAJ 3AAM 3AAW",
    " 3s#3pd3o(3INY 3pb3tf3_!3_$3|S3|c3se3j:3EDD 3jk3j!3tR3OTT 3OB 3z03yv2v|TTUDDAG 2GAAHLAA _4",
    "2MU-GAAHLAA _42RELAA 2PHAARKAA 2AHAD 2:[v/3i1v/0gn%$<~|n3LONG-LEGGED hR3wdyh3~kj$3[z[*3THR",
    "EE-LEGGED [*3[zng)4#V3UNBLENDED |B"]),
  (0x1C90, [
    "0mLv_($bH4cd4l^4iT4jk4|>4/R4[=4pF4q34s44uW4wc4y~4z[4/V4;m4=24[]4|I4.h4q&4m44;E4>h4fG4e24p!",
    "4fU4e[4~&4p_4nO4no4n%4~34nf4oP4kt4#r4ja4_fl^4av"]),
  (0x1CBD, ["0mLv_($al4ng)4sC)0[C:[dUSURYA 3PANGLONG 3PURNAMA 3eX3s?=d3qN=d3gq=d3cQ=d"]),
  (0x1CD0, [
    "0|p^5KARSHANA 2SHARA 2PRENKHA 1)NIHSHVASA 2#MvS[Q1^5#MAGGRAVATED pH[Q3pH[Q3qnpH[Q2e6c&2#Mq",
    "npH[QSCHROEDER 2i1[Q2^~[Q2qnb02iXc&2_ziZc&2]:iZc&2RIGVEDIC qhpH[Q2ATHARVAVEDIC pH[Q1)|][Q3",
    "_%2<K|]_%2|]b02<K|]b02|]_%![t3b0![t2b1bU3BAHIRGOMUKHA 3VAMAGOMUKHA 4![t2TIRYAK 2HEXIFORM t",
    "Yb12tYb12RTHANG tYb12b1UBHAYATO MUKHA 2bq2<@bq1^5e6aZ1)p#2|W2ATIKRAMA 1^5<kaZ2i1<kaZ1)i1b1",
    "bU"]),
  (0x1D00, [
    "0s7$%(aI4ad1%$_fad1$%(cjcL4eR4gp4kC4i/1%$_fy,i/4ow1$%(pu4qM4r*!@z4t:4<KwT4yh4y,yh1%$>$yh4y",
    ",yh4yh!@z3_fyp1$%(zV1%$^inTyh3dvnTyh1$%(zh4<K;a4_f;a4[d4_^1%$>$_^4DIAERESIZED _^4_ft:1$%(|",
    "d4~D4/A4k22|/LARYNGEAL SPIRANT 2av0m>$%(l]4sQ4.s4<Q4::0gn$%(j40vh$(aI3ad3cL3cjcL3gp3i/3<Ki",
    "/3lx3nL3ow3pu3qM3r*3t:3wT3<KwT3yh3zV3zh3;a3[d3_^3~D2%aI3_faI3a*3_fad3cL3gp3i/3=m3y,i/3_fy,",
    "i/3lx3_fow3qM3t:3jq3yh3y,yh3^inTyh3dvnTyh3zh3[d3_^3>$_^3_ft:3|d3av3dE3m>l]3h43m>.k3fB0s7@^",
    "%$ow4;a4_^4|d0m>@^%$dE4l]4<Q4.k4fB0s7%$_&3cL!vQ^C3gp!vQ^C3k4!vQ^C3t:!vQ^C3wT!vQ^C3zh!vQ^C3",
    ";a!vQ^C5k|*vQ^C3=G!vQ^C3[d!vQ^C3/A!vQ^C3_flx0vh$gnjk0s7%$pWlx3]2!STRIKETHROUGH 2($ow!@z2$p",
    "7!@z3zh!@z2($_^!@z2$|Y!@z3cL!zuoX3gp!zuoX3k4!zuoX3lx!zuoX3qM!zuoX3r*!zuoX3t:!zuoX3wT!zuoX3",
    "zh!zuoX3;a!zuoX3=G!zuoX3j&!zuoX3|d!zuoX3~$!zuoX3/A!zuoX3aI!<GoX3a*!<GoX3gp!oX*[t3i/!<GoX3y",
    ",i/!<GoX3<Ky,i/!<GoX3=m!<GoX3ow!<GoX3y,yh!<GoX3j&!<GoX3_^!<GoX3k2!<GoX0vh$%_fa*3eR4!g03kC3",
    "<Ky,i/3k43iYpu!@z3=rlx3_fnL3ow!@z3p73(ow5!@z3pu!gK3r*!<GoX5zuoX3(r*3t:!oX3_ft:!tYss3wT!slo",
    "X5<GoX3(wT3cjyh3.k3=G!oX3j&3[d!zuoX3_^cg3|Y3(_^3|d!oX3_f|d3/A4!<GoX5g03k23]h0fsi0m:a22a8a2",
    "1?tc&1[Nu81MACRON-ACUTE 1GRAVE-MACRON 1MACRON-GRAVE 1ACUTE-MACRON 1GRAVE-ACUTE-GRAVE 1ACUT",
    "E-GRAVE-ACUTE 1s7%$;ac&1BREVE-MACRON 1MACRON-BREVE 1i1f2aZ1yuaZ1/5c&1pdc&1|2aZ1|7aZ1s7%$k)",
    "y,aIaZ4ad4b24b)4eRet4pWgp4kC4lx2$%(lx2%$qM4r*2$%(r*5t:2%$wT2$%(wT5;a2%$;a<_4=G4tY=G4/A4a*4",
    "cL4dE4=m4k44r*!i1vQ^C4yh!s%ex@z4zh4j&4_^!s%ex@z4~D4aI!hn4yh!hn4_^!hn1|U[maZ1qpaZ,3sl1iXaZs",
    "l1~kp5d~c&1iXc&sl1DELETION u81i1p5d^c&1a(j?^1c&1slbyaZ1,by*i7byc&0s7($aI!<kc&1%$aI!<kc&1($",
    "cL!iXaZ1%$cL!iXaZ1($cL!iXc&1%$cL!iXc&1($cL!s*c&1%$cL!s*c&1($eR!et*a81%$eR!et*a81($gp!iXaZ1",
    "%$gp!iXaZ1($gp!iXc&1%$gp!iXc&1($gp!s*c&1%$gp!s*c&1($gp!et1%$gp!et1($gp!f2c&1%$gp!f2c&1($i/",
    "!uF*m:1%$i/!uF*m:1($i/!uF*a81%$i/!uF*a81($i/!f2c&1%$i/!f2c&1($i/!^Cc&1%$i/!^Cc&1($i/!et*d^",
    "1%$i/!et*d^1($k4!iXaZ1%$k4!iXaZ1($lx!uF1%$lx!uF1($nL!iXaZ1%$nL!iXaZ1($nL!iXc&1%$nL!iXc&1($",
    "nL!hn1%$nL!hn1($nL!et1%$nL!et1($nL!d^c&1%$nL!d^c&1($ow!^Cc&1%$ow!^Cc&1($ow!hn*a81%$ow!hn*a",
    "81($qM!a81%$qM!a81($qM!iXc&1%$qM!iXc&1($qM!s*c&1%$qM!s*c&1($r*!iXc&1%$r*!iXc&1($r*!iXc&*uF",
    "1%$r*!iXc&*uF1($r*!s*c&1%$r*!s*c&1($r*!f2c&1%$r*!f2c&1($t:!a81%$t:!a81($t:!iXaZ1%$t:!iXaZ1",
    "($t:!iXc&1%$t:!iXc&1($wT!iXaZ1%$wT!iXaZ1($wT!iXc&1%$wT!iXc&1($wT!s*c&1%$wT!s*c&1($wT!f2c&1",
    "%$wT!f2c&1($yh!^C*a81%$yh!^C*a81($yh!^C*hn1%$yh!^C*hn1($yh!uF*m:1%$yh!uF*m:1($yh!uF*a81%$y",
    "h!uF*a81($zh!a81%$zh!a81($zh!iXaZ1%$zh!iXaZ1($;a!iXaZ1%$;a!iXaZ1($;a!iXc&1%$;a!iXc&1($;a!i",
    "Xc&*uF1%$;a!iXc&*uF1($;a!s*c&1%$;a!s*c&1($=G!iXaZ1%$=G!iXaZ1($=G!iXc&1%$=G!iXc&1($=G!a8*iX",
    "aZ1%$=G!a8*iXaZ1($=G!ed*iXaZ1%$=G!ed*iXaZ1($=G!iXc&*iXaZ1%$=G!iXc&*iXaZ1($[d!iXaZ1%$[d!iXa",
    "Z1($[d!iXc&1%$[d!iXc&1($[d!s*c&1%$[d!s*c&1($[d!f2c&1%$[d!f2c&1($_^!hnc&1%$_^!hnc&1($_^!^Cc",
    "&1%$_^!^Cc&1($_^!f2c&1%$_^!f2c&1($_^!^C*a81%$_^!^C*a81($_^!uF*hn1%$_^!uF*hn1($|d!^C1%$|d!^",
    "C1($|d!iXc&1%$|d!iXc&1($~D!m:1%$~D!m:1($~D!a81%$~D!a81($~D!hn1%$~D!hn1($~D!iXaZ1%$~D!iXaZ1",
    "($~D!iXc&1%$~D!iXc&1($~$!iXaZ1%$~$!iXaZ1($~$!hn1%$~$!hn1($#D!iXaZ1%$#D!iXaZ1($/A!f21%$/A!f",
    "21($/A!iXc&1%$/A!iXc&1($/A!s*c&1%$/A!s*c&3nL!s*c&3[d!hn3~D!<kaZ3#D!<kaZ3aI!,nT<k3tY=G!iXaZ",
    "6ho@z6n)@z1($>V=G1%$h41($aI!iXc&1%$aI!iXc&1($aI!oXaZ1%$aI!oXaZ1($aI!f2*a81%$aI!f2*a81($aI!",
    "f2*m:1%$aI!f2*m:1($aI!f2*oXaZ1%$aI!f2*oXaZ1($aI!f2*^C1%$aI!f2*^C1($aI!f2*iXc&1%$aI!f2*iXc&",
    "1($aI!d^*a81%$aI!d^*a81($aI!d^*m:1%$aI!d^*m:1($aI!d^*oXaZ1%$aI!d^*oXaZ1($aI!d^*^C1%$aI!d^*",
    "^C1($aI!d^*iXc&1%$aI!d^*iXc&1($i/!iXc&1%$i/!iXc&1($i/!oXaZ1%$i/!oXaZ1($i/!^C1%$i/!^C1($i/!",
    "f2*a81%$i/!f2*a81($i/!f2*m:1%$i/!f2*m:1($i/!f2*oXaZ1%$i/!f2*oXaZ1($i/!f2*^C1%$i/!f2*^C1($i",
    "/!f2*iXc&1%$i/!f2*iXc&1($ow!oXaZ1%$ow!oXaZ1($ow!iXc&1%$ow!iXc&1($yh!iXc&1%$yh!iXc&1($yh!oX",
    "aZ1%$yh!oXaZ1($yh!f2*a81%$yh!f2*a81($yh!f2*m:1%$yh!f2*m:1($yh!f2*oXaZ1%$yh!f2*oXaZ1($yh!f2",
    "*^C1%$yh!f2*^C1($yh!f2*iXc&1%$yh!f2*iXc&1($yh!o1*a81%$yh!o1*a81($yh!o1*m:1%$yh!o1*m:1($yh!",
    "o1*oXaZ1%$yh!o1*oXaZ1($yh!o1*^C1%$yh!o1*^C1($yh!o1*iXc&1%$yh!o1*iXc&1($_^!iXc&1%$_^!iXc&1(",
    "$_^!oXaZ1%$_^!oXaZ1($_^!o1*a81%$_^!o1*a81($_^!o1*m:1%$_^!o1*m:1($_^!o1*oXaZ1%$_^!o1*oXaZ1(",
    "$_^!o1*^C1%$_^!o1*^C1($_^!o1*iXc&1%$_^!o1*iXc&1($#D!m:1%$#D!m:1($#D!iXc&1%$#D!iXc&1($#D!oX",
    "aZ1%$#D!oXaZ1($#D!^C1%$#D!^C1($vRtO1%$vRtO1($vR|d1%$vR|d1($#D!t21%$#D!t20m>%$a*!:<5g(5:<*|",
    "j5g(*|j5:<*ze5g(*ze5:<*.55g(*.51($a*!:<5g(5:<*|j5g(*|j5:<*ze5g(*ze5:<*.55g(*.51%$j>!:<5g(5",
    ":<*|j5g(*|j5:<*ze5g(*ze"]),
  (0x1F18, ["0m>($j>!:<5g(5:<*|j5g(*|j5:<*ze5g(*ze"]),
  (0x1F20, [
    "0m>%$j,!:<5g(5:<*|j5g(*|j5:<*ze5g(*ze5:<*.55g(*.51($j,!:<5g(5:<*|j5g(*|j5:<*ze5g(*ze5:<*.5",
    "5g(*.51%$p7!:<5g(5:<*|j5g(*|j5:<*ze5g(*ze5:<*.55g(*.51($p7!:<5g(5:<*|j5g(*|j5:<*ze5g(*ze5:",
    "<*.55g(*.51%$y_!:<5g(5:<*|j5g(*|j5:<*ze5g(*ze"]),
  (0x1F48, ["0m>($y_!:<5g(5:<*|j5g(*|j5:<*ze5g(*ze"]),
  (0x1F50, ["0m>%$|Y!:<5g(5:<*|j5g(*|j5:<*ze5g(*ze5:<*.55g(*.5"]),
  (0x1F59, ["0m>($|Y!g("]),
  (0x1F5B, ["0m>($|Y!g(*|j"]),
  (0x1F5D, ["0m>($|Y!g(*ze"]),
  (0x1F5F, [
    "0m>($|Y!g(*.51%$y]!:<5g(5:<*|j5g(*|j5:<*ze5g(*ze5:<*.55g(*.51($y]!:<5g(5:<*|j5g(*|j5:<*ze5",
    "g(*ze5:<*.55g(*.51%$a*!|j5ze3j>!|j5ze3j,!|j5ze3p7!|j5ze3y_!|j5ze3|Y!|j5ze3y]!|j5ze"]),
  (0x1F80, [
    "0m>%$a*!:<*#;5g(*#;5:<*|j*#;5g(*|j*#;5:<*ze*#;5g(*ze*#;5:<*.5*#;5g(*.5*#;1($a*!:<*:x5g(*:x",
    "5:<*|j*:x5g(*|j*:x5:<*ze*:x5g(*ze*:x5:<*.5*:x5g(*.5*:x1%$j,!:<*#;5g(*#;5:<*|j*#;5g(*|j*#;5",
    ":<*ze*#;5g(*ze*#;5:<*.5*#;5g(*.5*#;1($j,!:<*:x5g(*:x5:<*|j*:x5g(*|j*:x5:<*ze*:x5g(*ze*:x5:",
    "<*.5*:x5g(*.5*:x1%$y]!:<*#;5g(*#;5:<*|j*#;5g(*|j*#;5:<*ze*#;5g(*ze*#;5:<*.5*#;5g(*.5*#;1($",
    "y]!:<*:x5g(*:x5:<*|j*:x5g(*|j*:x5:<*ze*:x5g(*ze*:x5:<*.5*:x5g(*.5*:x1%$a*!|*5uF5|j*#;5#;5z",
    "e*#;"]),
  (0x1FB6, ["0m>%$a*!.56*#;1($a*!|*5uF5|j5ze5:x1rm1:x1:<1.51hq*.51%$j,!|j*#;5#;5ze*#;"]),
  (0x1FC6, ["0m>%$j,!.56*#;1($j>!|j5ze3j,!|j5ze5:x1:<*|j3ze3.51%$p7!|*5uF5hq*|j7ze"]),
  (0x1FD6, ["0m>%$p7!.55hq*.51($p7!|*5uF5|j5ze"]),
  (0x1FDD, [
    "0m>g(*|j3ze3.51%$|Y!|*5uF5hq*|j7ze3<Q!:<5g(3|Y!.55hq*.51($|Y!|*5uF5|j5ze3<Q!g(1hq*|j3ze1|j"]),
  (0x1FF2, ["0m>%$y]!|j*#;5#;5ze*#;"]),
  (0x1FF6, ["0m>%$y]!.56*#;1($y_!|j5ze3y]!|j5ze5:x1ze1g("])]

end ModuleDocs.CharacterName
