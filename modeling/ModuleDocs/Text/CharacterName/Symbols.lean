/-! # Names of marks and symbols

    The names of the code points from U+2000 to U+2E7F, those in numbered
    series apart, each as what is new in it after the one before. -/

namespace ModuleDocs.CharacterName

/-- The names, written briefly: the first code point, and the names from it on. -/
def symbols : List (Nat × List String) := [
  (0x2000, [
    "0jk;R0je;R0jk?$0je?$0THREE-PER-EM ?$0FOUR-PER-EM ?$0SIX-PER-EM ?$0kz?$0:[?$0]m?$0nQ?$0/S~m",
    "?$2NON-JOINER 2qD0squ80<gu80os0NON-BREAKING os0kzg%0jkg%0jeg%0o0cg0i1|vs*1t8s*0sl?J;3u80,?",
    "J;3u80?Jt9;3u81n*;3u80sli1;3u80,i1;3u80i1t9;3u81n*;3u80gw0i1gw0eC0^]eC0y/iXsf0_ziXsf0o0jc0",
    "ou:M0s*=!0z^=!0sqjf0<gjf0:Zh~FORMATTING 0sqza0<gza0wdxw?$0.1v2)1]K]y)0:o0i1:o0^~:o0<K:o1i1",
    ":o1^~:o0ec0?JsnbN;3u81<dbN;3u80REFERENCE u80i1kNu80p20z80|M0e]]~0ecpT:M0ASTERISM 0oseC0l8?",
    "g0sl@Kd;!;00,@Kd;!;00i1;Yu80;YkNu80kN;Yu80^L)j+0<K._)0d1sreC1<heC0t8b_0<K=_0fe|U0_zASTERIS",
    "KS ALIGNED |w0fuv8)0SWUNG g%0p5|M0lH:[u80]:iX:[0;T:o0l4iX:[0k/iX:[0_ziX:[0l4iXu80i0gG0^^0|",
    "vl4iZ0u]ui?$0~>qD0lqAPPLICATION 0INVISIBLE ^G1=!1:G"]),
  (0x2066, [
    "0sqpg0<gpg0k^@:pg0:Zh~pg0pO[a[W0a6[a[W0pObi&>T0a6bi&>T0wih:>S0NOMINAL h:>S0[F/S1s7%$ow"]),
  (0x2074, [
    "0[Fl41k/1?Y1=+1jU1x81:G)1v81j@)1slz%1,z%1s7%$wT0@^/S1y/1_z1]:1l41k/1?Y1=+1jU1x81:G)1v81j@)",
    "1slz%1,z%"]),
  (0x2090, ["0s7@^%$aI4i/4yh4~$4=m4nL4qM4r*4t:4wT4zh4=G4[d"]),
  (0x20A0, [
    "0EURO-CURRENCY )0fr)0CRUZEIRO )0lcFRANC )0tF)0MILL )0NAIRA )0PESETA )0=C)0~.)0w~SHEQEL )0i",
    "U)0kG)0rN)0TUGRIK )0ia)0GERMAN PENNY )0.c)0GUARANI )0AUSTRAL )0HRYVNIA )0CEDI )0LIVRE TOUR",
    "NOIS )0SPESMILO )0TENGE )0INDIAN =C)0TURKISH tF)0NORDIC u8)0MANAT )0RUBLE )0LARI )0BITCOIN",
    " )0??)"]),
  (0x20D0, [
    "0fsslnhaZ1,nhaZ1tY|vs*z71>u|vs*z71bW+aZ1fd+aZ1sl+aZ1,+aZ1<kz71fd<kz71bW<kz71]:iZaZ1l4iZaZ1",
    "jmfX2@K2hr2fXcX1sl,+aZ1jm=q2q^2|0:P^@1<J?>z71i1|v@zz71ANNUITY [81^~UNDERDOT 1~kd~aZ1sr+z71",
    "tYi1?>z71<hnh!chi91srnh!chi91sl+c&1,+c&1b_aZ"]),
  (0x2100, [
    "0a3ys0ADDRESSED ^1]9SUBJECT 0i4(eR0hYCELSIUS 0eys*[80CARE ys0CADA UNA 0EULER f>0SCRUPLE 0h",
    "YFAHRENHEIT 0=r%lx1(nL0d3(nL0i4(nL0PLANCK f>2z2_z.s0=r(ow0d3(ow0=r(r*1%r*0r*cLcg[80i4(wT0N",
    "UMERO )0?~RECORDING f%0=r(zh0i4(zh2:*0=r(;a0d3(;a0i4(;a0PRESCRIPTION TAKE 0<E0SERVICE u80]",
    "G)0TRADE u8)0VERSICLE 0i4(/A0zW)0yw)0p5yw)0d3(/A0_fm>%$p70KELVIN )0ANGSTROM )0=r(cL0d3(eR0",
    "ESTIMATED [80=r%i/1(i/2k40_f(k40=r(t:1%yh0a@[80dD[80mf[80g:[80pM?#0<@(:*0FACSIMILE )0i4%.s",
    "2l]1(l]2.s1wU[A0_f=5(lx3r*0<K=5(r*0_f=5(#D0i4pm(gp2%gp3i/3ow3pu0PROPERTY s*0_fbG0.1)0AKTIE",
    "SELSKAB 0_f%k40[8lW=Y?#0|,l8y/SEVENTH 3NINTH 3]P3]n2_z]o2y/kw2_zkx2]:kx2l4kx2y/?22k/?32y/j",
    "W2]:jX2k/jX2=+jX0l8yJy/0<:yIy/2_z2]:2l42k/2?Y2=+2jU2x82]K2j92_n2ky2y/oi2k/oi2y/]y0%<:yIy/3",
    "_z3]:3l43k/3?Y3=+3jU3x83]K3j93_n3ky3y/oi3k/oi3y/]y0<:yIy/]yeRgp2k/]y2]K]y2<Ky/oi0s7%$<KeR0",
    "<:yI?YLATE &2kyEARLY &3]y2y/oi]y0|,l8/S]o0_fh:_z2]:"]),
  (0x2190, [
    "0sr+0|1+0<h+0i9+0sl,+0|Ui7+0x;~a+1i*+0?/i*+1~a+0sr+!@z0<h+!@z0sr~T+0<h~T+0sr_znq+0|1_znq+0",
    "<h_znq+0i9_znq+0sr+![t0<h+![t0sr+lgcg0|1+lgcg0<h+lgcg0i9+lgcg0|Ui7+!cm0sr+!oX0<h+!oX0sr+!t",
    "20<h+!t20sl,~T+2+!@z0i9/5+0|1+!^Isr4<h0i9+!^Isr4<h0<h+!f&i90i9+!f&sr0bW^i=]+0fd^i=]+0x;~a+",
    "^1tYcg0sr+^1cgz2<h+^1cg0bWy,fX+0fdy,fX+0srnh!ch|14i90|1nh!ch<h4sr0<hnh!ch|14i90i9nh!ch<h4s",
    "r0<h+z2sr+0|1+srysi9+0sr+z2<h+1zsb.0|1zsb.0<hzsb.0i9zsb.0srnhz2<hnh0<hnhz2srnh0sri1+!@z0sl",
    ",i1+!@z0<hi1+!@z0sri1+0|1i1+0<hi1+0i9i1+0sl,i1+0|Ui7i1+0x;~ai1+1i*i1+0?/i*i1+1~ai1+0sr^~+0",
    "<h^~+0sr@P+0<h@P+0|1+!i1@z0i9+!i1@z0srg&+0|1g&+0<hg&+0i9g&+0sr+^1cg0<h+^1cg0sr~h+0|1~h+0<h",
    "~h+0i9~h+0|1~h+lgcg3y~.M5!o0cg6|vcg2i1+4y~.M0<h~h+lg~J0x;~a+^1f&0?/i*+^1f&0|Ui7~h+0,+!%fX0",
    "i9+srys|1+0]:<hb.0sr+!|v@z0<h+!|v@z0sl,+!|v@z0sr+!i1|v@z0<h+!i1|v@z0sl,+!i1|v@z0srzA+0<hzA",
    "+0sl,zA+0lWa/0COMPLEMENT 0z+hx0THERE EXISTS 1iNx>EXIST 0jj=)0INCREMENT 0w10j7ys0x>bHj7ys0%",
    "j7ys0f^b;u(0iNx>f[b;u(0%f^b;u(0jpysPROOF 0wU:s1f!1[A0v8)0MINUS-OR-PLUS )0iX:G0iA?g0=)v80b_",
    "zC0<kzC0eCzC0@K<>0gS<>0l6<>0PROPORTIONAL ^10pL0,bN0bN0u=bN0@BbN0DIVIDES 0iNx>h)0z#^10x>z#^",
    "10tV*1zH0p30|O0pX0i1pX0^~pX0f_pX0[LpX0VOLUME pX0fdpX1f_pX0bWf_pX0THEREFORE 0BECAUSE 0RATIO",
    " 0:w0iXv80EXCESS 0GEOMETRIC :w0oU0^CzC0<K^C0p5sc=G0SINE ~T0WREATH :s0x>^C0v8^C0b~j?^10x>b~",
    "j?^10bej?^11eIx>a7j?^10w;bex.a7j?^10a(j?^10x>a(j?^10a(j?zHj?^10^~^C0a/j?^10j^^10mKj^^10DIF",
    "FERENCE dG0APPROACHES ]9LIMIT 0mKj?^10bej?^1zH]9pBys0pByszHbej?^10frj@0j@fr0<kpFj?^11j?^10",
    "CORRESPONDS ^10ESTIMATES 0EQUIANGULAR ^10@cj@0h4j?^10j?^1eNDEFINITION 0u=eN0QUESTIONED j?^",
    "10x>j?^10o?^10x>o?^10STRICTLY j^^10s<zHj?^10m=zHj?^10s<z2j?^10m=z2j?^10s<eIx>j?^10m=eIx>j?",
    "^10v!s<1m=0dG0x>j^^11s<1m=0w;s<x.j?^11m=x.j?^10s<zHj^^10m=zHj^^10w;s<x.j^^11m=x.j^^10s<zHm",
    "=0m=zHs<0w;s<x.m=1m=x.s<0:i0@!0:izHj?^10@!zHj?^10:izHj^^10@!zHj^^10iNx>:h2@/0@_ys0[Gys0x>a",
    "I@_ys2[Gys0@_yszHj?^10[GyszHj?^10w;aI@_ysx.j?^12[Gysx.j?^10@_ys!x>j?^10[Gys!x>j?^10MULTISE",
    "T 1v)1|O0@KpBys1zLys1pByszHj?^11zLyszHj?^11e91gY0fY:G1v81^G1iA?g1iXzC1<kzC1b_zC1j@1g%0@L:G",
    "1v81^G1iXzC0,[m0sl[m0i7[m0|U[m0ASSERTION 0MODELS 0^*0FORCES 0^~|vcg,_g0i1|vcgi1,_g0iNx>PRO",
    "VE 0x>^*0iNx>FORCE 0w.i1|vcgi1,_g0:i|J;%0@!|J;%0x:@>ys0f^b;x:@>0x:@>yszHj?^10f^b;x:@>zHj?^",
    "10zLys0pBys0v&0HERMITIAN CONJUGATE MATRIX 0INTERCALATE 0XOR 0NAND 0x.0,bN!bm1^@0wUtV*2zH1p",
    "31|O0hrzC0iXzC0@czC0iA^G0dz0slx:k9=|:s0,x:k9=|:s0sl=|:s0,=|:s0<K^Cj@0g2tVzH2*0i1@_1[G1p31|",
    "O0.)0j?*z#^10s<!iX0m=!iX0|xv!s<2m=0s<j?^1zHm=0m=j?^1zHs<0j?^1zHs<3m=3:i3@!0iNx>:hzHj?2@/zH",
    "j?0x>@KpByszHj?^12zLyszHj?^10@KpByszHx>j?^11zLyszHx>j?^10s<eIx>j^^10m=eIx>j^^10:ieIx>j^^10",
    "@!eIx>j^^10x>x:@>ys0iNx>f[b;x:@>0x>x:@>yszHj?^10iNx>f[b;x:@>zHj?0|vjc0vSo0jc0|U,hojc0i7,ho",
    "jc0j7ys!tYo0@z3|vcgb#jpyso0@z0%j7ys!|vcgb#jpyso0@z0j7ys!iXaZ3z30%j7ys!z30j7ys!|K3_zo0@.0f^",
    "!tYo0@z2|vcgb#jpyso0@z0%f^!|vcgb#jpyso0@z0f^!z30%f^!z30/Ax?c0MEMBERSHIP 0DIAMETER )0j6+0o9",
    "0|Uby0i7by0PROJECTIVE 0PERSPECTIVE 0~Ws*0slev0,ev0sllC0,lC0dv,gF1slgF0^i,gF1slgF0<Kx>)0@Kt",
    "d0bm0=.0SECTOR 0]GRECORDER 0:0pK0VIEWDATA @K0.,ysINTEREST )0_fx>)0~Q0o80^islf&1,f&0dvslf&1",
    ",f&0^inTpX0dvnTpX0lj0?q0|UbydG_zo0cl0OPTION q[0j~^1]9,0~$pFaI;@d.0q]0snbNd;0<dbNd;0j~^1]9s",
    "l0dA<k0CYLINDRICITY 0a/AROUND-PROFILE 0SYMMETRY 0^pRUNOUT 0DIMENSION ORIGIN 0CONICAL TAPER",
    " 0SLOPE 0COUNTERBORE 0COUNTERSINK 0b5lr[8I-BEAM 3SQUISH ;R3;Rj?4h)4hr4qH4fX3fX@n4qH3?gcg3c",
    "Xcg3;R?g4cX4s<4m=3sr|h3<h|h3;Rsr+4<h+3fXcX3i7[m|K3h4@n3;Ri7ec4h43i7[mqH3|1|h3;R|1+3|U[mz33",
    "h1@n3;R|Uec4h13|U[mqH3i9|h3;Ri9+3;4|K3h4|K3hr|K3qH|K3fX|K3|U>nqH3;4;R3fX@c3;Rfr3|U[mhn3h1h",
    "n3@chn3qHhn3fXhn3i7>n@n3sl>n@n3^Chn3m=hn3ftcg3h1^C3ZILDE 3@n^C3=_|K3;Rx>j?4;Y3i7ec^C3|Uec^",
    "C3p73<Q3y]3a*|K3j>|K3p7|K3y]|K3a*0x>e!u80,bN!i9/5+0SHOULDERED y,d.0c%[80|vs*!vQiX0pT[80CON",
    "TINUOUS |L[80DISCONTINUOUS |L[80ji[80fw[80~h@K!ey|vs*0jv[80bBq[[80HELM [80fYo0cg!x@1^@i70d",
    "!fX!NORTHWEST +0UNDO [80MONOSTABLE [80HYSTERESIS [80OPEN-CIRCUIT-OUTPUT H-TYPE [81L-TYPE [",
    "80PASSIVE-PULL-DOWN-OUTPUT [80PASSIVE-PULL-UP-OUTPUT [80h_g4[8&_z0SOFTWARE-FUNCTION [80b5l",
    "r[8;R0hT=!q[[80PREVIOUS zo0NEXT zo0:p=q[80CLEAR =q[80slz%|XoX2kQ2tboX0,z%|XoX2kQ2tboX0sl@K",
    "d;|Xf&3kQ3tbf&0,@Kd;|Xf&3kQ3tbf&0slg2d;|XoX3vQ.x3tboX0g2d;kQ0,g2d;|XoX3vQ.x3tboX0pXkQ0o0s*",
    "kQ0|XslzHtb,g2d;=x1,zHtbslg2d;=x0[A^i1dv0^i@Kd;0dv@Kd;3z2^i@Kd;0;k[8dv0sl|vd.s*0,|vd.s*0o0",
    "SCAN LINE-1 2LINE-3 2LINE-7 2LINE-9 0DENTISTRY [8s%|v*^i,5dv,4!fX3i7*o0!fX3|U*o0!fX3|v!^@3",
    "i7*o0!^@3|U*o0!^@3|v*~T3i7*o0!~T3|U*o0!~T3i7*o03|U*o03|v*^isl5dvsl0@KlT0<H[80EJECT [80|vs*",
    "kQ0METRICAL d^1tYz2>u1>uz2tY1tYz2_z>v1_z>vz2tY3qC1^#1]X1.X0i)m_0FUSE 0^iz%0dvz%0^ig2d;0dvg",
    "2d;0^i^n>5d;0dv^n>5d;0~hTRAPEZIUM 0dA<k!fX0STRAIGHTNESS 0FLATNESS 0a0g40ELECTRICAL p30hTEX",
    "PONENT [80d1<di1^@1sni1^@1|Vi1^@1i8i1^@1<di1^@!|vcg1sni1^@!|vcg1<d^@!i1|vcg0ALARM fc0STOPW",
    "ATCH 0TIMER fc0o8!FLOWING SAND 0d1u]sn^@2<d^@2|V^@2i8^@0i1|vcg0d1@KlW@q1fXlW;?0:a[81ON-OFF",
    " [81y~[81SLEEP [80OBSERVER kU[80[8lWyG2@dysHEADING 4]12jpys]14^x2ENQUIRY 2a52c%2BACKSPACE ",
    "2o0[l2s*kl2|v[l2&kl2CARRIAGE <H2SHIFT zX3pF2DATA tBj%2DEVICE f|y/4_z4]:4l42w:a52SYNCHRONOU",
    "S IDLE 2jpys^xd92e42jpysu]2@|2j%2k.=!2m|=!2;?=!2|P=!2?$2h20d7[80y,d.0[8lWw/2h2&_z2@|&_z"]),
  (0x2440, ["0OCR oX1e>1lX1p5lX1c(BUCKLE 1dx]~1d>cfo@1AMOUNT yse!1g%1CUSTOMER a3yH1i1cX"]),
  (0x2460, [
    "0fYh:y/2_z2]:2l42k/2?Y2=+2jU2x81yH]K2j92_n2]p2l52kv2?Z2=,2jV2x92_q0z&h:y/2_z2]:2l42k/2?Y2=",
    "+2jU2x81yH]K2j92_n2]p2l52kv2?Z2=,2jV2x92_q0h:y/lo@q1_zlo@q1]:lo@q1l4lo@q1k/lo@q1?Ylo@q1=+l",
    "o@q1jUlo@q1x8lo@q0yH]Klo@q1j9lo@q1_nlo@q1]plo@q1l5lo@q1kvlo@q1?Zlo@q1=,lo@q1jVlo@q1x9lo@q1",
    "_qlo@q0z&s7%$aI4cL4eR4gp4i/4k44lx4nL4ow4pu4qM4r*4t:4wT4yh4zh4:*4;a4=G4[d4_^4|d4~D4~$4#D4/A",
    "0fYs7($aI4cL4eR4gp4i/4k44lx4nL4ow4pu4qM4r*4t:4wT4yh4zh4:*4;a4=G4[d4_^4|d4~D4~$4#D4/A2%$aI4",
    "cL4eR4gp4i/4k44lx4nL4ow4pu4qM4r*4t:4wT4yh4zh4:*4;a4=G4[d4_^4|d4~D4~$4#D4/A1h:/S0w:fYyHj93_",
    "n3]p3l53kv3?Z3=,3jV3x93_q0i1fYh:y/3_z3]:3l43k/3?Y3=+3jU3x82yH]K0w:fYh:/S0d.ifs%o02nxo02s%|",
    "v2nx|v2s%^~g%o02nx^~g%o02s%^~g%|v2nx^~g%|v2s%;Tg%o02nx;Tg%o02s%;Tg%|v2nx;Tg%|v2s%i7*,2i7s%",
    "*,nx3nx*,s%2nxi7*,2s%i7*sl2i7s%*slnx3nx*sls%2nxi7*sl2s%|U*,2|Us%*,nx3nx*,s%2nx|U*,2s%|U*sl",
    "2|Us%*slnx3nx*sls%2nx|U*sl2s%|v*,2|vs%*,nx2|Unx*,i7s%2i7nx*,|Us%2|vnx*,s%2i7s%*,|Unx2|Us%*",
    ",i7nx2nx|v*,2s%|v*sl2|vs%*slnx2|Unx*sli7s%2i7nx*sl|Us%2|vnx*sls%2i7s%*sl|Unx2|Us%*sli7nx2n",
    "x|v*sl2s%i7*o02slnx*,i7s%2,nx*sli7s%2i7s%*o0nx3nx*o0s%2,s%*sli7nx2sls%*,i7nx2nxi7*o02s%|U*",
    "o02slnx*,|Us%2,nx*sl|Us%2|Us%*o0nx3nx*o0s%2,s%*sl|Unx2sls%*,|Unx2nx|U*o02s%|v*o02slnx*,|vs",
    "%2,nx*sl|vs%2|vs%*o0nx2|Unx*i7o0s%2i7nx*|Uo0s%2|vnx*o0s%2sl|Unx*,i7s%2,|Unx*sli7s%2sli7nx*",
    ",|Us%2,i7nx*sl|Us%2i7s%*|Uo0nx2|Us%*i7o0nx2,s%*sl|vnx2sls%*,|vnx2nx|v*o02s%i1g%o02nxi1g%o0",
    "2s%i1g%|v2nxi1g%|v2i1o03|v2i7?J*,i13i1*,?J2i1i7*,2i7?J*sli13i1*sl?J2i1i7*sl2|U?J*,i13i1*,?",
    "J2i1|U*,2|U?J*sli13i1*sl?J2i1|U*sl2|v?J*,i13i1*,?J2i1|v*,2|v?J*sli13i1*sl?J2i1|v*sl2i7?J*o",
    "0i13i1*o0?J2i1i7*o02|U?J*o0i13i1*o0?J2i1|U*o02|v?J*o0i13i1*o0?J2i1|v*o02s%bmi7*,6sl4|U*sl6",
    ",3ho|X,^1tbsl5sl^1tb,4gG3sl3|U3,3i72nxsl3|U3,3i72s%sl*nx,3|U*nxi72nxsl*s%,3|U*s%i70|XnTd90",
    "tby/jWd92;Ud91]:jXd91nTd91k/jXd91]:;Vd91=+jXd90lod90sl=+jXd91]:;Vd91k/jXd91nTd91]:jXd91y/;",
    "Ud92jWd90,nTd90s%>L0u]>L0g!>L0|Xy/jWd90,y/jWd90;Stbsl2,1|Xsl3*tbsl*tb,5,4|X,*tbsl8,2,3*tbs",
    "l6*tb,0d1@K0~h@K2!<~f(2f]d1%@K0@K!o0k:2|vk:2ORTHOGONAL gLk:2|Xsl^1tb,k:3,^1tbslk:2hogLk:0d",
    "1%@K0~h%@K0d1;@0~h;@0d1|v;@0~h|v;@0d1z/0~hz/0d1|V^@0~h|V^@0d1|V%^@0~h|V%^@0d1<d^@0~h<d^@0d",
    "1<d%^@0~h<d%^@0d1<d:O0~h<d:O0d1i8^@0~hi8^@0d1i8%^@0~hi8%^@0d1sn^@0~hsn^@0d1sn%^@0~hsn%^@0d",
    "1sn:O0~hsn:O0d1hr0~hhr2f]d1%hr0FISHEYE 0td0~hfX0i0fX0fX!|vk:0BULLSEYE 0d1fX0fX!slnTd12,nTd",
    "12tbnTd12|XnTd13,;Sd12a/eI|Xsl;Sd10slnTd1fX0,nTd1fX0p4eC1~hfX0|XnTp4~hfX0tbnTp4~hfX0|Xsl;S",
    "f1bm1,;Sf1bm0tb,;Sf1bm1sl;Sf1bm0|XnTfX0tbnTfX0d1tb,^@2sl^@1|Xsl^@2,^@0~heC0@K!slnTd12,nTd1",
    "2|XslhonTd12tb,honTd10~h@K!|vBISECTING s*1|V^@!iX0|V^@!slnTd13,nTd10s1fX0~h@K!|Xsl;S3tbsl;",
    "S4,;S3|X,;S1fX!|Xsl;S3tbsl;S4,;S3|X,;S0|Xsl^@1,^@0tbsl^@0~hu]@K0d1u]@K0~hu]%@K0d1u]%@K0tb,",
    "^@0d1[B!;.0fj0|G0?x0COMET 0d1@c0~h@c0s&0THUNDERSTORM 0[B0b=xx0hcxx0CONJUNCTION 0zE0d1]G0~h",
    "]G0c8d.2!e!3~$0=W0|G!;pDROPS 0o5dH0~h>p.x0d1>p.x0SHAMROCK 0<K<@lEnteC0d1sl:PpI1,:PpI0~hsl:",
    "PpI1|U:PpI1,:PpI1i7:PpI0?e*gI0CAUTION )0RADIOACTIVE )0BIOHAZARD )0eV0ANKH 0ORTHODOX gG0fB<",
    "Q0gGysLORRAINE 2JERUSALEM 0@c*gB0kd[80ADI SHAKTI 0nW*SICKLE 0.J[80#o#R0TRIGRAM lWnw2sM2k]2",
    "]@2~p2~R2v:2i)0~fysDHARMA 0~hlkk71?rk70d1?rk70~h[B!;.0k^;Uvv0s5;Uvv0u+0ko)0i)0uU)0JUPITER ",
    "0SATURN 0|40w@0:I0ARIES 0TAURUS 0GEMINI 0CANCER 0LEO 0VIRGO 0LIBRA 0SCORPIUS 0SAGITTARIUS ",
    "0CAPRICORN 0AQUARIUS 0PISCES 0~he+rL2;X2<=2dY2r42.F0d1e+rL2;X2<=2dY2r42.F1?&@(0~hnt@(1hr@(",
    "0d1fk@(0~h?&@(0d1nt@(1hr@(0~hfk@(0o5SPRINGS 0;Ux]0jWx]0c>jWx_1?0x_0wBk&)1wj)1>V)0~a[cgG0i*",
    "[cgG0|Q;^[80;^[8lWTYPE-1 :D3TYPE-2 :D3_>:D3_?:D3_@:D3_[:D3TYPE-7 :D3GENERIC MATERIALS 0d1|",
    "Q;^[80RECYCLED z@[80PARTIALLY-RECYCLED z@[80PERMANENT z@)0~g[8"]),
  (0x2686, [
    "0~hfX!iX,3_ziZ0d1fX!~hiX,3_z~hiZ0volW#R2#o0h;lWm<#R2LESSER #o3#R2m<#o0~hk$0d1k$0nW*.u0bJ0g",
    "JSWORDS 0@9ysAESCULAPIUS 0SCALES 0a[0lH0mG0@9ysHERMES 0ATOM [80FLEUR-DE-LIS 0zZ~h@c0]:s,CO",
    "NVERGING ,3sl0WARNING )0n)VOLTAGE )0i5ko)1uU)0INTERLOCKED ko*uU)0uU*ko)1!@z)3*uU*ko)0|vuU!",
    "@z)0o0uU!@z)0u]~hfX1d1fX1%~hfX0MARRIAGE [80DIVORCE [80UNMARRIED z,[80COFFIN 0FUNERAL URN 0",
    "NEUTER 0CERES 0PALLAS 0JUNO 0VESTA 0CHIRON 0d1vvLILITH 0SEXTILE 0SEMISEXTILE 0QUINCUNX 0SE",
    "SQUIQUADRATE 0SOCCER c50BASEBALL 0@Lq[0~hieuW2rL0d1ieuW2rL0?x~v?v0[Bc!fj0;p0d1?x0]@fj*;p0_",
    "f~h>p.x1d1>p.x0~hhrpF@K0gMsX0DISABLED ea0OPHIUCHUS 0.u0eaSLIDING 0n<!~hgG0fYgMsX0CHAINS 0x",
    "vjx0a,ONE-WAY sl~1^v0d1_;sl~1^v0~h_;sl~1^v0d1slsWu,0~hslsWu,0ii?m)0nx~hi8^@0slffjx0@L=W0ka",
    "hopF~hfXpFd1@K0d1^)0RESTRICTED slENTRY-1 2ENTRY-2 0ASTRONOMICAL [8lW|40nxfX!@z*_ziZaZ0.W0R",
    "IGHT-HANDED p0.W0LEFT-HANDED p0.W0p5.W0d1gGy~>d0SHINTO SHRINE 0fR0eh0HISTORIC SITE 0mG~vHU",
    "B 1!HANDLES 0u2[8lWLIGHTHOUSE 0v:0|Gy~m_0l30k$pFoS0FERRY 0SAILBOAT 0@Kl4f(0SKIER 0o;?a0.9!",
    "c50]O0p.cf[80nrGRAVEYARD [80FUEL PUMP 0gYy~d1@K0~hk$!o0vQd1STRIPE 0d1=N=n0|Xd6=n0d1=n0tbd6",
    "=n0~h=n1nxe!u80]GtS)0[[ii0ax0jy0;qk~1nZ0|:nZ0~_nZ0tb,.T0.T0|X,.T0~hxV0d1xV0e!u80nxe!u80v)~",
    "$0nxv)~$0c8~$0nxc8~$0zZm>gG0nxm>gG0y,eygG0nxy,eygG0s7gG0>N~hs7gG0zZs7gG0MALTESE gG0@cysDAV",
    "ID 0l4[+b_1c7b_0nxl4c7b_0l4CLUB-SPOKED b_0d1l4:N@c0~hl4:N@c0SPARKLES 0@xzZ~h@c0fY~h@c0y,ey",
    "d1@c0d1ey~h@c0zZd1@c0nxzZd1@c0.#@c0>N~h@c0nxb_0y,eyb_0jU@Hb_1:Nd1@c2.#@c0?Y:Nd1@c0jU:N;]d1",
    "@c0nxjU:N;]d1@c0_n:Nd1@c0?Z:Nb_0[+b_0y,ey[+b_0nx[+b_0?Y.dd1*~hlF0d1lF0~hlF0jU.dzZd1lF0fYy,",
    "eyjU:N@c0nx[+.#b_0?w0]!TRIFOLIATE ?w0nxfA?w0?)0nx?)0c7b_0jU[+:vb_0nxjU[+:vb_0gGu80>N~hfX0w",
    ":@LgGu80tb,ij~h@K0|X,ij~h@K0tb,>N~h@K0|X,>N~h@K0d1;Yu8zO0~h;Yu8zO1kNu8zO0d1hrv8~h~$0nxkNu8",
    "[80s%|vcg0u]|vcg0nx|vcg1?J_fft;3u8zO2ft;3u8zO1i1_fft;3u8zO2ft;3u8zO1t8?Jft;3u8zO2i1ft;3u8z",
    "O0g7@iz^)zO0nxkNu8zO1ntkNu8zO1d1nt0<@nxd1nteC0lEnt0<@lEnteC0u]slz%zO1,z%zO1k)slz%zO2,z%zO1",
    "snbNd;zO1<dbNd;zO0nxsnbN;3u8zO1<dbN;3u8zO1snbNd;zO1<dbNd;zO0s%sl^n>5d;zO1,^n>5d;zO0u]slg2d",
    ";zO1,g2d;zO0h]w:fYh:y/4_z4]:4l44k/4?Y4=+4jU4x83yH]K1fY=5h:y/4_z4]:4l44k/4?Y4=+4jU4x83yH]K1",
    "w:fY=5h:y/5_z5]:5l45k/5?Y5=+5jU5x84yH]K0nx~l<h+1:G)1v8)1iA)1?/i*+1<h+1x;i*+0DRAFTING :M<h+",
    "0nxROUND-TIPPED <h+0^[<h+0nx^[<h+0g&^[<h+0nxg&^[<h+0d1<h+0];^j<hby1BOTTOM-LIGHTED <hby0d1<",
    "hby0nxd1g7i9*<h+3|1*<h+0@Nd1<h+0nxCONCAVE-POINTED d1<h+0<e~h<h+0so~h<h+0cU>N~h<h+0li>N~h<h",
    "+0nxtb<f~h<h+1|X<f~h<h+0x[tb<f~h<h+0g2t20x[|X<f~h<h+0fYnx~h<h+0WHITE-FEATHERED <h+0d2?/i*+",
    "1<h+1x;i*+0nxd2?/i*+2<h+2x;i*+0TEARDROP-BARBED <h+0nxTEARDROP-SHANKED <h+0~5<h+0nx~5<h+0OP",
    "EN-OUTLINED <h+0i1g2t20]:DIMENSIONAL bN0~h^@f]%~h^@0.70y,@_1[G0sl=Hc0h30,=Hc0h30zH!iXpU0<J",
    "?>:j@_0[G:j?>0|vcg!o0@z0ui<nho0tYiA0uikaho0@LtV*2zH0~hhr!eziX0*!iX0j7yszB|10tb,f&!iX0|Xslf",
    "&!iX0slzYqB0,zYqB0lozYqB0s1|U[m1i7[m0sl*,i1_g3[m1v&0tY,[m1sl[m0|U[m!fXaZ0tdh*eNo0RULE 0~hC",
    "ONCAVE-SIDED hr3!sr]|4<h]|1@K!sr]|3<h]|0uisl~h@Kd;1,~h@Kd;1slbNd;1,bNd;1sli1bNd;1,i1bNd;1s",
    "l~h^n>5d;1,~h^n>5d;1slk)z%1,k)z%0|1;T+0i9;T+0bWl#fX+0fdl#fX+0,+!fY:G0tYsr+1<h+1sl,+1sri1+1",
    "<hi1+1sl,i1+1sr+lgcg1<h+lgcg1sri1+lgcg1<hi1+lgcg2@P+0BRAILLE .Dd72DOTS-1 2DOTS-2 2DOTS-12 ",
    "2DOTS-3 2DOTS-13 2DOTS-23 2DOTS-123 2DOTS-4 2DOTS-14 2DOTS-24 2DOTS-124 2DOTS-34 2DOTS-134",
    " 2DOTS-234 2DOTS-1234 2DOTS-5 2DOTS-15 2DOTS-25 2DOTS-125 2DOTS-35 2DOTS-135 2DOTS-235 2DO",
    "TS-1235 2DOTS-45 2DOTS-145 2DOTS-245 2DOTS-1245 2DOTS-345 2DOTS-1345 2DOTS-2345 2DOTS-1234",
    "5 2DOTS-6 2DOTS-16 2DOTS-26 2DOTS-126 2DOTS-36 2DOTS-136 2DOTS-236 2DOTS-1236 2DOTS-46 2DO",
    "TS-146 2DOTS-246 2DOTS-1246 2DOTS-346 2DOTS-1346 2DOTS-2346 2DOTS-12346 2DOTS-56 2DOTS-156",
    " 2DOTS-256 2DOTS-1256 2DOTS-356 2DOTS-1356 2DOTS-2356 2DOTS-12356 2DOTS-456 2DOTS-1456 2DO",
    "TS-2456 2DOTS-12456 2DOTS-3456 2DOTS-13456 2DOTS-23456 2DOTS-123456 2DOTS-7 2DOTS-17 2DOTS",
    "-27 2DOTS-127 2DOTS-37 2DOTS-137 2DOTS-237 2DOTS-1237 2DOTS-47 2DOTS-147 2DOTS-247 2DOTS-1",
    "247 2DOTS-347 2DOTS-1347 2DOTS-2347 2DOTS-12347 2DOTS-57 2DOTS-157 2DOTS-257 2DOTS-1257 2D",
    "OTS-357 2DOTS-1357 2DOTS-2357 2DOTS-12357 2DOTS-457 2DOTS-1457 2DOTS-2457 2DOTS-12457 2DOT",
    "S-3457 2DOTS-13457 2DOTS-23457 2DOTS-123457 2DOTS-67 2DOTS-167 2DOTS-267 2DOTS-1267 2DOTS-",
    "367 2DOTS-1367 2DOTS-2367 2DOTS-12367 2DOTS-467 2DOTS-1467 2DOTS-2467 2DOTS-12467 2DOTS-34",
    "67 2DOTS-13467 2DOTS-23467 2DOTS-123467 2DOTS-567 2DOTS-1567 2DOTS-2567 2DOTS-12567 2DOTS-",
    "3567 2DOTS-13567 2DOTS-23567 2DOTS-123567 2DOTS-4567 2DOTS-14567 2DOTS-24567 2DOTS-124567 ",
    "2DOTS-34567 2DOTS-134567 2DOTS-234567 2DOTS-1234567 2DOTS-8 2DOTS-18 2DOTS-28 2DOTS-128 2D",
    "OTS-38 2DOTS-138 2DOTS-238 2DOTS-1238 2DOTS-48 2DOTS-148 2DOTS-248 2DOTS-1248 2DOTS-348 2D",
    "OTS-1348 2DOTS-2348 2DOTS-12348 2DOTS-58 2DOTS-158 2DOTS-258 2DOTS-1258 2DOTS-358 2DOTS-13",
    "58 2DOTS-2358 2DOTS-12358 2DOTS-458 2DOTS-1458 2DOTS-2458 2DOTS-12458 2DOTS-3458 2DOTS-134",
    "58 2DOTS-23458 2DOTS-123458 2DOTS-68 2DOTS-168 2DOTS-268 2DOTS-1268 2DOTS-368 2DOTS-1368 2",
    "DOTS-2368 2DOTS-12368 2DOTS-468 2DOTS-1468 2DOTS-2468 2DOTS-12468 2DOTS-3468 2DOTS-13468 2",
    "DOTS-23468 2DOTS-123468 2DOTS-568 2DOTS-1568 2DOTS-2568 2DOTS-12568 2DOTS-3568 2DOTS-13568",
    " 2DOTS-23568 2DOTS-123568 2DOTS-4568 2DOTS-14568 2DOTS-24568 2DOTS-124568 2DOTS-34568 2DOT",
    "S-134568 2DOTS-234568 2DOTS-1234568 2DOTS-78 2DOTS-178 2DOTS-278 2DOTS-1278 2DOTS-378 2DOT",
    "S-1378 2DOTS-2378 2DOTS-12378 2DOTS-478 2DOTS-1478 2DOTS-2478 2DOTS-12478 2DOTS-3478 2DOTS",
    "-13478 2DOTS-23478 2DOTS-123478 2DOTS-578 2DOTS-1578 2DOTS-2578 2DOTS-12578 2DOTS-3578 2DO",
    "TS-13578 2DOTS-23578 2DOTS-123578 2DOTS-4578 2DOTS-14578 2DOTS-24578 2DOTS-124578 2DOTS-34",
    "578 2DOTS-134578 2DOTS-234578 2DOTS-1234578 2DOTS-678 2DOTS-1678 2DOTS-2678 2DOTS-12678 2D",
    "OTS-3678 2DOTS-13678 2DOTS-23678 2DOTS-123678 2DOTS-4678 2DOTS-14678 2DOTS-24678 2DOTS-124",
    "678 2DOTS-34678 2DOTS-134678 2DOTS-234678 2DOTS-1234678 2DOTS-5678 2DOTS-15678 2DOTS-25678",
    " 2DOTS-125678 2DOTS-35678 2DOTS-135678 2DOTS-235678 2DOTS-1235678 2DOTS-45678 2DOTS-145678",
    " 2DOTS-245678 2DOTS-1245678 2DOTS-345678 2DOTS-1345678 2DOTS-2345678 2DOTS-12345678 0<h_:+",
    "!|v@z4i1|v@z0sri1+!|v@z0<hi1+!|v@z0sl,i1+!|v@z0<h_:+lgcg0sri1+lgcg0<hi1+lgcg0i9+!o0@z0|1+!",
    "o0@z1^~+0i9^~+0sri1g%+0<hi1g%+0sr^~g%+0<h^~g%+1_:^~g%+1+!i0@i0|1+^1cg0i9+^1cg0<h+![t!|v@z5",
    "i1|v@z1_:+![t5!|v@z6i1|v@z0srbx0<hbx0sri1bx0<hi1bx0sr+^1d1hr0<h+^1d1hr0sr+lgcg^1d1hr0<h+lg",
    "cg^1d1hr0x;~a*?/i*+1i**?/~a+1~a+!oX1i*+!oX0?/i*+!oX1~a+!oX0x;~a+*x;i*+1i*+*?/i*+0?/i*+*?/~",
    "a+1~a+*x;~a+0<nhogMkaho0kahogM<nho0?/i*+gMx;i*+0x;i*+gM?/i*+0kahogMx;i*+0<nhogM?/i*+0x;i*+",
    "gMx;~a+1~a+gMx;i*+0~T+:Ph#,0+:P<h]dg8|15i92i9]dg8sr5<h0RIGHT-SIDE bmfd+0LEFT-SIDE bmbW+0^i",
    "bmbW+0dvbmbW+0^ibmfd+!v82bW+!:G0tb,=^fd+1sl=^bW+0bWfffX+0fdfffX+"]),
  (0x2942, [
    "0<h+aZ>usr+0sr+aZ>u<h+0>u<h+aZsr+0<h+!:Gc&0sr+!:Gc&0<h+]<~$0sl,+]<%fX0|1_:+lg%fX0slch|U,ch",
    "i7nh2i7,ch|Unh0|Uch,i7chslnh2sli7ch,nh0slch|U,ch|Unh0|Uch,i7ch,nh0slchi7,chi7nh0|Uchsli7ch",
    "slnh0srnh!ch|U^1cg0<hnh!ch|U^1cg0|1nh!ch,^1cg0i9nh!ch,^1cg0srnh!chi7^1cg0<hnh!chi7^1cg0|1n",
    "h!chsl^1cg0i9nh!chsl^1cg0srnh!ch|Ulgcg0<hnh!ch|Ulgcg0|1nh!ch,lgcg0i9nh!ch,lgcg0srnh!chi7lg",
    "cg0<hnh!chi7lgcg0|1nh!chsllgcg0i9nh!chsllgcg0srnh!ch|UaZsrnh!chi70|1nh!chsldC|1nh!ch,0<hnh",
    "!ch|UaZ<hnh!chi70i9nh!chsldCi9nh!ch,0srnh!ch|UaZ<hnh!ch|U4i7aZ<hnh!chi70<hnh!ch|UaZsrnh!ch",
    "|U4i7aZsrnh!chi70srnh!ch|UaZtYg%4i7c&tYg%0<hnh!ch|UaZtYg%4i7c&tYg%0|1nh!chsldCi9nh!ch,0i9n",
    "h!chsldC|1nh!ch,0,i1+!<~np0j@)aZ<h+0^CzCaZ<h+0sr+aZ^CzC0<h+aZ^CzC3a(j?^10s<aZsr+0sr+]<s<0m",
    "=aZ<h+0@_aZ<h+0sr+]<@_0[GaZsr+0slk_[t0,k_[t0|Uk_[t0i7k_[t0^~|vcgh30/Ax?SPOT 2_=fr0sl~hg2d;",
    "0,~hg2d;0sl~hz%0,~hz%0/Ax?slpBd;2,pBd;2sldTd;2,dTd;0sl@Kd;!|K0,@Kd;!|K0sl@Kd;!]|pF^if&0,@K",
    "d;!]|pFdvf&0sl@Kd;!]|pFdvf&0,@Kd;!]|pF^if&0slbNd;!iX0,bNd;!iX0slbms<d;0,bmm=d;0i1slbmm=d;1",
    ",bms<d;0sld1^n>5d;0,d1^n>5d;0i0kq0|v/5s*0u=bNzBsl0,bN|k!@K0u=,bN!iX0bN!=GpU0a8bN0@BbNzBsl3",
    "|U0_fbN0<KbN0bN!|K0<KbN!|K0ykbNzB|U3i70u=bN!y,buENDING pF+:P|U*,9|U*sl9i7*,9i7*sl9,*|U9sl*",
    "|U9,*i79sl*i70<Kjj=)0jj=)!z33%fXaZ3,+aZ3sl+aZ0fX!o0cg0fY|vcg1z#1<J?>1.70fXh*eNo0cg*^inTh*e",
    "N|vcg1!SUPERIMPOSED ~$0fYANTICLOCKWISE-ROTATED iA)0|U+]<fX0fY~heC1eC1s<1m=0fX!%fX^1]9,2_zo",
    "0@.^1]9,0@L<nho?g1kaho?g1b_1%fX1@K0_zqC@M0^@!iXaZ2|K0=GpF^@0^@!=&b#dv0,^@aZsl^@0sl^@dC|vcg",
    "0|vcgdC,^@0dz!slnTd12,nTd10d1dz0^G!slnTd12,nTd10~ho80d1o80sl~nkq0,~nkq0sli1~nkq0,i1~nkq0IN",
    "COMPLETE pL0]~z2pL0pLw.!|vcg0DOUBLE-ENDED v&0@K!CONTOURED OUTLINE 0INCREASES b;0SHUFFLE :s",
    "0j@)*?fz#5!^CaZ0o?^1*?fz#0GLEICH STARK 0THERMODYNAMIC 0i8^@!slnTd13,nTd10d1hr!i7+1td0~hfX!",
    "i7+0d1fX!i7+0ERROR-BARRED ~h@K1d1@K1~hhr1d1hr1~hfX1d1fX0RULE-DELAYED 0<J?>zC0?>!z30<J?>!o0",
    "@z0dP?>1<J?>0i1:G0^~:G0sng7bNd;0<dg7bNd;0^H0MINY 0wUfYiXzC2:GzC2^GzC1|OzC!iX4:G1@Kp3zC2|Oz",
    "C0_ztV*zC2zHzC0wU^GzC0MODULO _z@,0[A!pX0;TpXzC0FINITE z)pX0pX!i1@z1AVERAGE !?g0CIRCULATION",
    " lq0bWpY0s*pY!;[.Cbw:R3=^.Cbw:R2x>INCLUDING ]9:R0pXbwaI:MzC0QUATERNION pXzC0pX!sr+!oX2^G)2",
    "p32|O2z32|K0qB0s1sl^@zC0/Ax?SCHEMA fw3PIPING 3PROJECTION 0:G)!%fXaZ3f2a2aZ3^CaZ3iXc&3^Cc&3",
    "@^_z3d1^@0v8)!ftaZ3iXc&3kaiZ3<niZ0:G)pFslnTfX3,nTfX0VECTOR zHgG:s0v))!iXaZ3|K0=|:s!dvff0?p",
    ":s0v))pFslnTfX3,nTfX0fYv))!f2a20v))pFi1fX0fYiA)0:G)pF^@0v8)pF^@0v))pF^@0pZ:s0RIGHTHAND pZ:",
    "s0/Ax?RELATIONAL fw0AMALGAMATION zHf!0p3!iX0|O!v8)2z30p3!z32tV*0|O!tVzH1aZp30p3aZ|O0|OaZcg",
    "aZp30p3aZcgaZ|O0|OdC*qC!|O0p3dC*qC!p30ff|O!=&1p3!=&0i1@Kp32|O0ff|O!=&*?p:s0tV*!iXaZ1zH!iXa",
    "Z0i1tV*2zH0_zINTERSECTING tV*3zH0SLOPING s1zH2*0tVzHz6tV*1*!vQ@i1zH!vQ@i1*!o0g%1zH!o0g%1*!",
    "i1z33|K3i1|K0%|q!|K0tVzH!i1z34|K0/Ax?DOMAIN bZ2;vbZ0j@)!iXc&0o?!iXaZ0^~o0cg!i1|v@z4^~|v@z0",
    "^CzC!iXaZ3<niZ0?Gv8?G0CONGRUENT !iXaZ0j@!b_0a(j?^1!f2a20bej?zHj?^10j@)aZ:G)0:G)aZj@)0j@)aZ",
    "^CzC0i1frj?0_zf<j@>*0]:f<j@>*0j@)!_ziZaZ*_ziZc&0j^!l4iZaZ0s<!fXpU0m=!fXpU0s<!;Yu8aZ0m=!;Yu",
    "8aZ0s<zH?fj?^10m=zH?fj?^10s<zH?fj?^1!iXpU0m=zH?fj?^1!iXpU0s<zH?fj?^1!iXaZ0m=zH?fj?^1!iXaZ0",
    "s<zH?fj?^1!iXaZ,0m=zH?fj?^1!iXaZsl0s<zHbd0m=zHbd0s<*?Kx>j?^10m=*?Kx>j?^10s<*x>bd0m=*x>bd0s",
    "<aZi2j?aZm=0m=aZi2j?aZs<0s<aZ?GzHj?0m=aZ?GzHj?0s<aZ?GaZm=0m=aZ?GaZs<0s<aZm=aZi2j?0m=aZs<aZ",
    "i2j?0s<aZ?fj?aZm=aZ?fj?0m=aZ?fj?aZs<aZ?fj?0?fj?^1zHs<4m=4s<!iXpU4m=!iXpU0i2j?^1zHs<4m=1?fj",
    "?^1zHs<5m=0?GzHs<2m=1aZs<aZj@)2m=aZj@)0i1w^s<2m=2s<!|K0m=z6s<1dCs<0s<ffeNg60m=ffeNg60s<ffe",
    "Ng6aZ?fj?0m=ffeNg6aZ?fj?0?o]80s2]80?o]8zHj?^10s2]8zHj?^10j@)!BUMPY aZ0:iaZ?Kj@)0@!aZ?Kj@)0",
    ":iaZ?Kx>j?^10@!aZ?Kx>j?^10:iaZj@)0@!aZj@)0:iaZx>j?^10@!aZx>j?^10:iaZa(j?^10@!aZa(j?^10:iaZ",
    "x>a(j?^10@!aZx>a(j?^10i1:i1@!0@_!iX0[G!iX0@_!:G)c&0[G!:G)c&0@_!v))c&0[G!v))c&0@_yszHj?^1!i",
    "XaZ0[GyszHj?^1!iXaZ0@_ysaZj@)0[GysaZj@)0@_ysaZ^CzC0[GysaZ^CzC0@_ysaZa(j?^10[GysaZa(j?^10@_",
    "ysaZx>j?^10[GysaZx>j?^10@Ksly,d.zC1,y,d.zC0ff@_1[G1@_zHj?^11[GzHj?^10@_aZ[G0[GaZ@_0@_aZ@_0",
    "[GaZ[G1dC@_2*qCeNg%!@_0j7yszBi90.)!]B^i0TRANSVERSAL p30FORKING 0NONFORKING 0>usl[m1i7[m1|U",
    "[m0.7!=G0|vcg^~,_g0i1|vcgsl_g0|vcgi1sl_g0i1|vcgi1sl_g0tYg%lgslu(ysi1|v0>ui7[m!z31|U[m!|K3a",
    "Z>ui7[m0i1i7[m1|U[m1@zx>)0<Ki1@zx>)0iNx>h)!<KNEGATION ?g0|vs*!fXaZ4c&0i7[m!fXc&0z#!o0@z2^C",
    "zC0^~|vcgdR;%3!o0@z1frzC1w^s<2m=0i2?fs<zHj?^12m=zHj?^10^~?>dR;%0s1^~|vcgzC0i1?>zC0~h|vcg0w",
    "U~h|vcg0x;i*~h+1~a~h+0?/i*~h+1~a~h+0sl,~h+0srd1+0|1d1+0i9d1+0x;i*d1+1~ad1+0?/i*d1+1~ad1+0s",
    "l,d1+0|Ui7d1+0<h+!^Ii94|10sr+!^Ii94|10@K!^inTd12dvnTd12|X,honTd12tbslhonTd10hr!slnTd12,nTd",
    "12^inTd12dvnTd10i0@K0d1s1@K0~hs1@K0d1|x%@K0~h|x%@K0d1.V0~h.V1n|0d1n|0o0d1n|0d1s1fX1u]hr0~h",
    "u]hr0d1u]td0~hu]td0d1%hr2td0~h%td0d1o0jb0~ho0jb0d1|vjb0~h|vjb0sl+!%fX0]:srb.0sl+!fY:G0tYsr",
    "@P+0sr_:+!|v@z4i1|v@z3lgcg2^~g%+1+!i0@i3[t!|v@z5i1|v@z1_:+![t5!|v@z6i1|v@z1+]<~$0~T+:Ph#sl",
    "0j@)aZsr+0<J^CzCaZsr+0sr+aZ<Ja(j?^10<h+]<m=3[G0sr;T+0<h;T+0<J^CzCaZ<h+0<h+aZ<Ja(j?^10^CzCa",
    "Zsr+0sr+aZa(j?^13<J^CzC0<h+aZ<J^CzC0i9^[/5+0>u?fx;+1cW?/+0~hu]@c0d1%@c0~h%@c0d1<d.V0~h<d.V",
    "0nxs1fX1z1!z1pU1fX!fXpU21fY=W0?fx;+!oYnp0cW?/+!oY[t0?fx;+!o0[t0cW?/+!o0[t0c,+:Pi9]dx;i*0>u",
    "c,+:Pi9]dx;i*0sr^[+0|1^[+0<h^[+0i9^[+0sl,^[+0|Ui7^[+0x;~a^[+1i*^[+0?/i*^[+1~a^[+0sr^[g&+0|",
    "1^[g&+0<h^[g&+0i9^[g&+0fd^[y,fX+0bW^[y,fX+0sr^[+^1cg0|1^[+^1cg0<h^[+^1cg0i9^[+^1cg"]),
  (0x2B76, [
    "0x;~a^[+^1cg1i*^[+^1cg0?/i*^[+^1cg1~a^[+^1cg0sr^[+!i1o0@z0|1^[+!i1o0@z0<h^[+!i1o0@z0i9^[+!",
    "i1o0@z0o0[jq[0|v[jq[0sr^[+z2<h^[+0|1^[+srysi9^[+0<h^[+z2sr^[+0i9^[+srys|1^[+0sr^[zsb.0|1^[",
    "zsb.0<h^[zsb.0i9^[zsb.0srd1fY~h+0|1d1fY~h+0<hd1fY~h+0i9d1fY~h+0bW^[,__+2dv__+2sl__+2^i__+0",
    "<Hsl1,0w/sl1,0l4f&b.f0bW0<hd1+"]),
  (0x2B97, [
    "0[8lW_=aIELECTRONICS 0];^jsrj]by1RIGHT-LIGHTED |1j]by1^j<hj]by1LEFT-LIGHTED i9j]by0d1srj]b",
    "y1|1j]by1<hj]by1i9j]by0i9^[+!tY^Isr6<h0|1^[+!tY^Isr6<h0sr^[+!tY^I|10<h^[+!tY^I|10sr^[+!tY^",
    "Ii90<h^[+!tY^Ii90d1g7i9*sr+4<h+2|1*sr+4<h+2sr*|1+2<h*|1+2sr*i9+2<h*i9+0<S+i7sl3,2|Usl3,2sl",
    "|U2,|U2sli72,i70|1~h+lgcg!o0cg0|UbypFaI;@d.0z6~h@M2*d1@M1d1@M0c8d.!s%~$0fY~$1dk~$0d1@Kez1h",
    "rez0_fd1.V0o0d1yn0d1yn1u]|V^@ez2i8^@ez2sn^@ez2<d^@ez0w@&_z0^inTd1fX0dvnTd1fX0s%l4:Nd1g90<@",
    "s%l4:Nd1g90~hl4:Ng90<@~hl4:Ng90@K:0pK0UNCERTAINTY )0m|u80:I&_z2]:2l42k/0TRANSPLUTO 0PROSER",
    "PINA 0ASTRAEA 0HYGIEA 0PHOLUS 0NESSUS 0~hvvSELENA 0d1hry~gG0^*s%vvARTA 0CUPIDO 0HADES 0ZEU",
    "S 0KRONOS 0APOLLON 0ADMETOS 0VULCANUS 0POSEIDON 0slnTd1@c0,nTd1@c0@c!slnTd12,nTd10sr_:+!^@",
    "bz0|1_:+!^@bz0<h_:+!^@bz0i9_:+!^@bz0ERIS &y/2_z0SEDNA 0RUSSIAN b|[8VIGINTILE 3NOVILE 3QUIN",
    "TILE 3BINOVILE 3SENTAGON 3TREDECILE 0j@)!pLc&0UNITED [80SEPARATED [80i5[80PASSED [80<K,bN0",
    "HELLSCHREIBER PAUSE [80mk($cK3eB3|o3mj3iK3#g3/Z3i>3/P3ps3pQps3ow3iF3q13tN3wS3wg3y&3:Q3<o3?",
    "l3_i3|D3le3n[3zU3.I3>.3_J3fM3>F3#c3#b3#W3@CnM3#=3%#|5![t3#s3p8%#|3dP#|3p8dP#|3k#3pt3>:3^%a",
    "I3s8wS3ekfM1%$cK3eB3|o3mj3iK3#g3/Z3i>3/P3ps3pQps3ow3iF3q13tN3wS3wg3y&3:Q3<o3?l3_i3|D3le3n[",
    "3zU3.I3>.3_J3fM3>F3#c3#b3#W3@CnM3#=3%#|5![t3#s3p8%#|3dP#|3p8dP#|3k#3pt3>:3^%aI3s8wS3ekfM0s",
    "7($r*!i1cg1%$r*!i1cg1($r*!vQ^C3zh!@z3;a![t1%$aI!@z3[d!ho@z1($nL!hb1%$nL!hb1($qM!hb1%$qM!hb",
    "1($/A!hb1%$/A!hb1($a*3t:!oX3_faI4a*1%$|d!,oX1($~D!oX1%$~D!oX3|d!g01($nTnL1%$nTnL3TAILLESS ",
    ".k3i/!x@3_f;a![t3yh!t8<kpU1$%(_fi/1@^%$pu0vh$(|d0s7($=G![X[t3/A![X[t0f$($a_1%$a_1($|;1%$|;",
    "1($l]1%$l]1($g.1%$g.1($jT1%$jT1($?|1%$?|1($/K1%$/K1($nk1%$nk1($]i1%$]i1($oz1%$oz1($q71%$q7",
    "1($s91%$s91($vL1%$vL1($xU1%$xU1($rz1%$rz1($yh1%$yh1($.s1%$.s1($<t1%$<t1($?E1%$?E1($[~1%$[~",
    "1($_~1%$_~1($kt1%$kt1($rA1%$rA1($::1%$::1($y*1%$y*1($hpa@1%$hpa@1($y=f$av1%$y=f$av1($gPjT1",
    "%$gPjT1($hpq71%$hpq71($hpxU1%$hpxU1($gPxU1%$gPxU1($y=f$y*1%$y=f$y*1($=11%$=11($gJ>31%$gJ>3",
    "1($y=f$>31%$y=f$>31($y=f$j&1%$y=f$j&1($a.q*1%$a.q*1($hpoZ1%$hpoZ1($y=f$oZ1%$y=f$oZ1($y=f$n",
    "M1%$y=f$nM1($r+nM1%$r+nM1($y=f$n;1%$y=f$n;1($y=f$nj1%$y=f$nj1($y=f$l|1%$y=f$l|1($y=f$iC1%$",
    "y=f$iC1($y=f$>g1%$y=f$>g1($y=yD>g1%$y=yD>g1($y=yDxJ1%$y=yDxJ1($y=yDy71%$y=yDy71($y=yD~S1%$",
    "y=yD~S1[8qY2vL<t2.s<t2STAUROS 2[~<t2rA<t2>g?E1($gP>31%$gP>31($gPl|1%$gPl|1fsxUaZ2SPIRITUS ",
    "ASPER 3sz1($djq*1%$djq*"]),
  (0x2CF9, [
    "0f$y=yDlo@q3h_;Yu83INDIRECT ;Yu83|uh+1l8y/nT1lo@q1MORPHOLOGICAL h+0mL%$bH3cd3l^3iT3jk3|>3/",
    "R3[=3pF3q33s43uW3wc3y~3z[3/V3;m3=23[]3|I3.h3q&3m43;E3>h3fG3e23p!3fU3e[3~&3p_3nO3no3n%3~33n",
    "f3oP"]),
  (0x2D27, ["0mL%$#r"]),
  (0x2D2D, ["0mL%$al"]),
  (0x2D30, [
    "0]#$#F2YAB 2YABH 2YAG 2YAGHH 2dBa1#L2#L2YAD 2YADH 2YADD 2YADDH 2YEY 2YAF 2#N2_6#N2YAKHH 2#",
    "K2dBa1#K2_6#K2YAHH 2#H2#O2_6#O2#T2_6#T2#k2#02AHAGGAR #02_6#02YAL 2#P2#Q2_6YAGN 3#R2#S2#=2#",
    "U2YARR 2#J2_6#J2AYER #J2YAS 2YASS 2YASH 2#V2YATH 2YACH 2YATT 2YAV 2YAW 2#Y2#Z2TAWELLEMET #",
    "Z2YAZZ 2#12#s"]),
  (0x2D6F, ["0]#vh$LABIALIZATION u81=!u8"]),
  (0x2D7F, [
    "0]#f=qD0kD[7LOA 2MOA 2ROA 2SOA 2SHOA 2BOA 2TOA 2COA 2NOA 2NYOA 2mnyi2ZOA 2DOA 2DDOA 2JOA 2",
    "THOA 2CHOA 2PHOA 2POA 2GGWA 2GGWI 2GGWEE 2GGWE "]),
  (0x2DA0, ["0kD[7@T2@62@42SSAA 2SSEE 2@32@5"]),
  (0x2DA8, ["0kD[7CCA 2CCU 2CCI 2CCAA 2CCEE 2CCE 2CCO "]),
  (0x2DB0, ["0kD[7/i2/n2/k2ZZAA 2ZZEE 2/j2/m"]),
  (0x2DB8, ["0kD[7CCHA 2CCHU 2CCHI 2CCHAA 2CCHEE 2ep2CCHO "]),
  (0x2DC0, ["0kD[7QYA 2QYU 2QYI 2QYAA 2QYEE 2QYE 2QYO "]),
  (0x2DC8, ["0kD[7r(2KYU 2KYI 2KYAA 2r)2KYE 2KYO "]),
  (0x2DD0, ["0kD[7#B2XYU 2XYI 2XYAA 2XYEE 2#C2XYO "]),
  (0x2DD8, ["0kD[7GYA 2GYU 2GYI 2GYAA 2GYEE 2GYE 2GYO "]),
  (0x2DE0, [
    "0fsgn$c<3|n3m53hR3/W3/N3qN3j43je3jk3yh3.I3j_3j$3[*3nM3_D3e/3>F3>Y3k#3ES-TE 3aI3o/3iE3vq|B3",
    "#V3#=3p9aI3tJ#|3dP#|3p9dP#|0,bN@~uc2i0@~uc0sl@~d;0,@~d;0sli0@~d;0,i0@~d;0;qp1uc1i0p1uc0i0^",
    "yuc0sl^yd;0,^yd;0;q@K0sl;qy|d;0,;qy|d;0EDITORIAL CORONIS 0z_0lYz_0<KlYz_0HYPODIASTOLE 0i0O",
    "BELOS 0i9bK0|1bK0i0<dbN0i1ykos0p5p20zxd>0os!hn0^C!<kaZ0slt8z!d;0,t8z!d;0^C!iXaZ3c&0sl|vcg!",
    ";00,|vcg!;00^islnTd;1,nTd;0dvslnTd;1,nTd;0sl>$_^d;0,>$_^d;0sli1z%0,i1z%0_ziZz2y/iX:[0y/iXz",
    "2_ziZ:[0@Ll4iX:[0k/iXu80<K;Yu80|v^C0<k:M0~>=!vQiX0_fft0;qiX1ft0_f=_0gw!slm$2,m$0_fgw0^inT=",
    "x)0TWO-EM g%0THREE-EM g%0STENOGRAPHIC lo@q0|v?YiZ0~n|vs*0CAPITULUM 0i1os0<Kft0i1LOW-REVERS",
    "ED-9 ;3u80g%!sl|Z0i1[Nu80p5t8qp3!qpaZ0t8qp2!iX0i1STACKED ft0i0?>0^~gw0u[ft0PARAGRAPHUS u80",
    "PUNCTUS ELEVATUS u80CORNISH |uh+0gGPATTY !,gH3slgH0^L)(j+0u[kNu81;Yu80sl@Kd;!@z0,@Kd;!@z0s",
    "l@Kd;!i1@z0,@Kd;!i1@z0^inTslz%2,z%0dvnTslz%2,z%0ykos"])]

end ModuleDocs.CharacterName
