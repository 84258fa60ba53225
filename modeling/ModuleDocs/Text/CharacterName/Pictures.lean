/-! # Names of notations and pictures

    The names of the code points from U+1D000 on, those in numbered
    series apart, each as what is new in it after the one before. -/

namespace ModuleDocs.CharacterName

/-- The names, written briefly: the first code point, and the names from it on. -/
def pictures : List (Nat × List String) := [
  (0x1D000, [
    "0BYZANTINE wC[8:<3DASEIA 3.53zdj34h^3|ij34h^3KATHISTI 3SYRMATIKI 3z~3YPOKRISIS 4h^3KREMAST",
    "I 3b4j33kOj33]F3q;3ba4h^3SYNEVMA 3THITA 3y?bp3mvbp3PSILON 3CHAMILON 3VATHY 3pibp3q:bp3q;bp",
    "3SAXIMATA 3PARICHON 3@gAPODEXIA 3OXEIAI bp3VAREIAI bp3b8bp3APOTHEMA 3rY3REVMA 3.tbp3TINAGM",
    "A 3ANATRICHISMA 3==3[bbp4META STAVROU 3zgbp3]c3LEMOI 3i.3TRIA 3]S3KRATIMATA 3b4kOw>3llbp3I",
    "MIFTHORA 3^&bp3KATAVA ^&3.R3:;3rh3fJbp3RAPISMA 3z|bp3z~bp3ICHADIN 3w93PETASMA 3rha&3^&a&3S",
    "TRAGGISMATA 3GRONTHISMATA 3piw>3y?w>3zdw>3PETASTI 3KOUFISMA 3PETASTOKOUFISMA 3KRATIMOKOUFI",
    "SMA 3.Rw>3q;w>bS3q:w>bS3YPSILI 3baw>3b9SYNDESMOS w>3YPORROI 3KRATIMOYPORROON 3ELAFRON 3CHA",
    "MILI 3MIKRON pi3|iw>3.tw>3:;w>3OMALON 3ANTIKENOMA 3LYGISMA 3z~w>3z|w>3kBz|3KYLISMA 3ANTIKE",
    "NOKYLISMA 3^&w>3EKSTREPTON 3[bw>3SYRMA 3fJw>3EPEGERMA 3==w>3XIRON rY3TROMIKOPSIFISTON 3PSI",
    "FISTOLYGISMA 3TROMIKOLYGISMA 3TROMIKOPARAKALESMA 3PSIFISTOPARAKALESMA 3TROMIKOSYNAGMA 3PSI",
    "FISTOSYNAGMA 3GORGOSYNTHETON 3bs3kBbs3zgw>3THEMATISMOS ESO 4kO3]cb73THES qYAPOTHES 3KATAVA",
    "SMA 3ENDOFONON 3YFEN qo4bS3@g3rYbS3h^bp3KRATIMA bp4a&4w>3b8w>3b63h^3TRIPLI 3TETRAPLI 3rm3s",
    "uENOS fP4i.fO4TRION fO4TESSARON fO4IMISEOS fP3mvw>bS4z(bt5hf3DIGORGON 4z(btqo6bS5hf3TRIGOR",
    "GON 3ARGON 3IMIDIARGON 3DIARGON 3AGOGI :Sbr4ARGOTERI 4br4METRIA 4MESI 4mu4GORGOTERI 4:Smu3",
    "ud:zo=4a$:zo=4hgo=4a$hgo=4TRITOS o=4TRIFONIAS 4]Vo=5sto=4sto=4:Bo=3ISAKIA ]Io<3b9]Io<3FANE",
    "ROSIS TETRAFONIAS 4vn4hy3udVARYS o=4PROTOVARYS o=4:B]Vo=3GORTHMIKON wTb75DIPLOUN 3ENARXIS ",
    "qYll|(3IMIFONON 3IMIFTHORON 3llbpDEYTEROU ICHOU 4htzi5w94NAOS o=4hthm4?dDIATONON hm4htqt5/",
    "a5xUqo6bS4MALAKON fNhy6vn3FHTORA ?dfNVASIS 3ll?dfNSYNAFI 4NENANO 3CHROA ZYGOS 4KLITON 4SPA",
    "THI 3llow#i]U4ENARMONIOS ANTIFONIA 3#i^!3hw^!4]U4b6i.iM4vp]SiM4h<kMiM4^|y;iM3#ib6i.iM4vp]S",
    "iM4h<kMiM4^|y;iM3GENIKI hw4#i3DIASTOLI b6MIKRI 5MEGALI 4h^4]f3SIMANSIS ]f5h%5^/5]Y4ARSEOS ",
    "5h%5^/5]Y3DIGRAMMA GG 3DIFTOGGOS zV3@m3ARKTIKO zi4|(4ly4hm4qt4/a4xU3q;w>vD3q:w>vD3q;w>qo3q",
    ":w>qo3rYqo3mvw>qo"]),
  (0x1D100, [
    "0wC[8?Jci2i1ci2k=ci2<Jk=ci2g&ci2>uci2sl;+)2,;+)2;+iZ2gy=:2gqCAPO 2=:2CODA 2REPEATED FIGURE",
    "-1 3FIGURE-2 3FIGURE-3 2ks3c&2d[u82CAESURA 2BRACE 2d;2ONE-LINE @92TWO-LINE @92THREE-LINE @",
    "92FOUR-LINE @92FIVE-LINE @92SIX-LINE @92SIX-STRING ld2FOUR-STRING ld2lxf84zTa+5cp2eRf82k4f",
    "84zTa+5cp2ilCLEF-1 3CLEF-2 "]),
  (0x1D129, [
    "0wC[8v(u<<F2i1>V3k&2k&|U3i72wj|U3i72>V|U3i72;U^5>V4k&2COMMON ^F2ga^F2zTa+3cp2QUINDICESIMA ",
    "a+3cp2MULTI <F2~i<F2nT<F2;U<F2jW<F2?0<F2]s<F2?5<F2y/oi_r<F2~$x^2:Gx^2fX~$x^2@Kx^~h4d12^@x^",
    "|U~h5d14sl~h5d14,~h5d14i7~h5d14|U,~h6d12vvx^~h4d12TRIANGLE-ROUND x^i7~h5d12z%x^2VOID x^2x^",
    "d12yGx^2CLUSTER x^~h4d12d^2~ix]2nTx]2;Ux]2jWx]2?0x]2]sx]2?5x]2y/oi_rx]2fs@i3SPRECHGESANG @",
    "i3^:3^;3^<2FINGERED ^:3^;3^<2fsAUGMENTATION iX"]),
  (0x1D173, [
    "0wC[8c~c=2jpc=2c~]~2jp]~2c~?n2jp?n2c~.q2jp.q2fsa23STACCATO 3TENUTO 3STACCATISSIMO 3MARCATO",
    " 3MARCATO-STACCATO 3ACCENT-STACCATO 3LOURE 2ARPEGGIATO |U3i72fsDOIT 3RIP 3lB3SMEAR 3c*3i1^",
    "e3^~^e2RINFORZANDO 2SUBITO 2/A2PIANO 2MEZZO 2FORTE 2CRESCENDO 2DECRESCENDO 2mxx]?g4xv?g2TR",
    " 2_e2p5_e2_e?g3|U"]),
  (0x1D1A6, [
    "0wC[8HAUPTSTIMME 2NEBENSTIMME 2jpysSTIMME 2hY?g2fsi7dx3|Udx3HARMONIC 3SNAP PIZZICATO 2.Lu8",
    "3|Uu82nT.Lu82GLISSANDO |U3i72!FINGERNAILS 2DAMP 3a/2MAXIMA 2tZ2d_2=[~h3d12v63d12=~~h3d12FU",
    "SA ~h3d12tZ.4<F3pD<F2d_<F2=[<F2v6<F2=~<F2TEMPUS PERFECTUM gV:t.46pD6.4h@3IMPERFECTUM gV:t.",
    "46pD7h@7DIMINUTION-2 7DIMINUTION-3 2CROIX 2GREGORIAN eRf83k4f82@KcL2VIRGA 2PODATUS 2CLIVIS",
    " 2=k2CLIMACUS 2^m2PORRECTUS 3k,2=kk,2^mRESUPINUS 2PES SUBPUNCTIS 2KIEVAN eRf83jpys.x3k=x]3",
    "RECITATIVE u83~ix]3nTx]3;Ux]@ii76|U3jWx]@ii76|U3k&)2SORI 2KORON "]),
  (0x1D21D, [
    "0m>pVx?SYMBOL-1 3SYMBOL-2 3SYMBOL-4 3SYMBOL-5 3SYMBOL-7 3SYMBOL-8 3SYMBOL-11 3SYMBOL-12 3S",
    "YMBOL-13 3SYMBOL-14 3SYMBOL-17 3SYMBOL-18 3SYMBOL-19 "]),
  (0x1D22F, ["0m>pVx?SYMBOL-29 3SYMBOL-30 3SYMBOL-32 "]),
  (0x1D237, ["0m>pVx?SYMBOL-42 3SYMBOL-43 3SYMBOL-45 "]),
  (0x1D242, ["0fsm>wC^#3]X3.X0m>wCsu"]),
  (0x1D2E0, ["0MAYAN yI/S2y/2_z2]:2l42k/2?Y2=+2jU2x82]K2j92_n2]p2l52kv2?Z2=,2jV2x9"]),
  (0x1D300, [
    "0volWi)0h;lWHEAVENLY i)2ofi)2EARTHLY nw3of2i)0TETRAGRAM lWey2lofX2MIRED 2BARRIER 2qv%2CONT",
    "RARIETY 2ASCENT 2zE2BRANCHING zX2DEFECTIVENESS zHDISTORTION 2DIVERGENCE 2YOUTHFULNESS 2pG2",
    "PENETRATION 2;=2f@2oRcT2~H2lO2ADVANCE 2RELEASE 2RESISTANCE 2EASE 2qI2CONTENTION 2ENDEAVOUR",
    " 2DUTIES 2CHANGE 2DECISIVENESS 2dkRESOLUTION 2PACKING 2LEGION 2CLOSENESS 2KINSHIP 2l%2STRE",
    "NGTH 2PURITY 2FULLNESS 2RESIDENCE 2sazHMODEL 2<E2GOING ^1u#2ENCOUNTERS 2STOVE 2GREATNESS 2",
    "ENLARGEMENT 2.D2RITUAL 2FLIGHT 2VASTNESS zHWASTING 2CONSTANCY 2u<2kA2UNITY 2DIMINISHMENT 2",
    "ffv<2GUARDEDNESS 2l%pF2MASSING 2ACCUMULATION 2EMBELLISHMENT 2DOUBT 2~Q2SINKING 2pR2ha2g$2D",
    "IMMING 2EXHAUSTION 2SEVERANCE 2STOPPAGE 2HARDNESS 2fv2CLOSURE 2FAILURE 2AGGRAVATION 2COMPL",
    "IANCE 2y~]9VERGE 2DIFFICULTIES 2LABOURING 2FOSTERING "]),
  (0x1D360, [
    "0COUNTING ROD |Ph:y/4_z4]:4l44k/4?Y4=+4jU4x82]Mh:y/4_z4]:4l44k/4?Y4=+4jU4x80o~[.u8y/3_z3]:",
    "3l43k/0[.u8y/2k/"]),
  (0x1D400, [
    "0uidk(aI3cL3eR3gp3i/3k43lx3nL3ow3pu3qM3r*3t:3wT3yh3zh3:*3;a3=G3[d3_^3|d3~D3~$3#D3/A2%aI3cL",
    "3eR3gp3i/3k43lx3nL3ow3pu3qM3r*3t:3wT3yh3zh3:*3;a3=G3[d3_^3|d3~D3~$3#D3/A1pm(aI3cL3eR3gp3i/",
    "3k43lx3nL3ow3pu3qM3r*3t:3wT3yh3zh3:*3;a3=G3[d3_^3|d3~D3~$3#D3/A2%aI3cL3eR3gp3i/3k43lx"]),
  (0x1D456, [
    "0uipm%ow3pu3qM3r*3t:3wT3yh3zh3:*3;a3=G3[d3_^3|d3~D3~$3#D3/A1dkpm(aI4cL4eR4gp4i/4k44lx4nL4o",
    "w4pu4qM4r*4t:4wT4yh4zh4:*4;a4=G4[d4_^4|d4~D4~$4#D4/A3%aI4cL4eR4gp4i/4k44lx4nL4ow4pu4qM4r*4",
    "t:4wT4yh4zh4:*4;a4=G4[d4_^4|d4~D4~$4#D4/A1=r(aI"]),
  (0x1D49E, ["0ui=r(eR3gp"]),
  (0x1D4A2, ["0ui=r(lx"]),
  (0x1D4A5, ["0ui=r(pu3qM"]),
  (0x1D4A9, ["0ui=r(wT3yh3zh3:*"]),
  (0x1D4AE, ["0ui=r(=G3[d3_^3|d3~D3~$3#D3/A2%aI3cL3eR3gp"]),
  (0x1D4BB, ["0ui=r%k4"]),
  (0x1D4BD, ["0ui=r%nL3ow3pu3qM3r*3t:3wT"]),
  (0x1D4C5, [
    "0ui=r%zh3:*3;a3=G3[d3_^3|d3~D3~$3#D3/A1dk=r(aI4cL4eR4gp4i/4k44lx4nL4ow4pu4qM4r*4t:4wT4yh4z",
    "h4:*4;a4=G4[d4_^4|d4~D4~$4#D4/A3%aI4cL4eR4gp4i/4k44lx4nL4ow4pu4qM4r*4t:4wT4yh4zh4:*4;a4=G4",
    "[d4_^4|d4~D4~$4#D4/A1l9(aI3cL"]),
  (0x1D507, ["0uil9(gp3i/3k43lx"]),
  (0x1D50D, ["0uil9(pu3qM3r*3t:3wT3yh3zh3:*"]),
  (0x1D516, ["0uil9(=G3[d3_^3|d3~D3~$3#D"]),
  (0x1D51E, [
    "0uil9%aI3cL3eR3gp3i/3k43lx3nL3ow3pu3qM3r*3t:3wT3yh3zh3:*3;a3=G3[d3_^3|d3~D3~$3#D3/A1i4(aI3",
    "cL"]),
  (0x1D53B, ["0uii4(gp3i/3k43lx"]),
  (0x1D540, ["0uii4(ow3pu3qM3r*3t:"]),
  (0x1D546, ["0uii4(yh"]),
  (0x1D54A, ["0uii4(=G3[d3_^3|d3~D3~$3#D"]),
  (0x1D552, [
    "0uii4%aI3cL3eR3gp3i/3k43lx3nL3ow3pu3qM3r*3t:3wT3yh3zh3:*3;a3=G3[d3_^3|d3~D3~$3#D3/A1dkl9(a",
    "I4cL4eR4gp4i/4k44lx4nL4ow4pu4qM4r*4t:4wT4yh4zh4:*4;a4=G4[d4_^4|d4~D4~$4#D4/A3%aI4cL4eR4gp4",
    "i/4k44lx4nL4ow4pu4qM4r*4t:4wT4yh4zh4:*4;a4=G4[d4_^4|d4~D4~$4#D4/A1=5(aI3cL3eR3gp3i/3k43lx3",
    "nL3ow3pu3qM3r*3t:3wT3yh3zh3:*3;a3=G3[d3_^3|d3~D3~$3#D3/A2%aI3cL3eR3gp3i/3k43lx3nL3ow3pu3qM",
    "3r*3t:3wT3yh3zh3:*3;a3=G3[d3_^3|d3~D3~$3#D3/A2dk(aI4cL4eR4gp4i/4k44lx4nL4ow4pu4qM4r*4t:4wT",
    "4yh4zh4:*4;a4=G4[d4_^4|d4~D4~$4#D4/A3%aI4cL4eR4gp4i/4k44lx4nL4ow4pu4qM4r*4t:4wT4yh4zh4:*4;",
    "a4=G4[d4_^4|d4~D4~$4#D4/A2pm(aI4cL4eR4gp4i/4k44lx4nL4ow4pu4qM4r*4t:4wT4yh4zh4:*4;a4=G4[d4_",
    "^4|d4~D4~$4#D4/A3%aI4cL4eR4gp4i/4k44lx4nL4ow4pu4qM4r*4t:4wT4yh4zh4:*4;a4=G4[d4_^4|d4~D4~$4",
    "#D4/A2dkpm(aI5cL5eR5gp5i/5k45lx5nL5ow5pu5qM5r*5t:5wT5yh5zh5:*5;a5=G5[d5_^5|d5~D5~$5#D5/A4%",
    "aI5cL5eR5gp5i/5k45lx5nL5ow5pu5qM5r*5t:5wT5yh5zh5:*5;a5=G5[d5_^5|d5~D5~$5#D5/A1vr(aI3cL3eR3",
    "gp3i/3k43lx3nL3ow3pu3qM3r*3t:3wT3yh3zh3:*3;a3=G3[d3_^3|d3~D3~$3#D3/A2%aI3cL3eR3gp3i/3k43lx",
    "3nL3ow3pu3qM3r*3t:3wT3yh3zh3:*3;a3=G3[d3_^3|d3~D3~$3#D3/A1pm%iYow4pu"]),
  (0x1D6A8, [
    "0uidk(a*3dE3l]3h43j>3/T3j,3]h3p73q93sQ3v|3yA3~*3y_3.s3<Q3]h[83>(3[~3|Y3.k3fB3::3y]2w12%a*3",
    "dE3l]3h43j>3/T3j,3]h3p73q93sQ3v|3yA3~*3y_3.s3<Q3k=>(3>(3[~3|Y3.k3fB3::3y]2z+hx2j>[82]h[82q",
    "9[82.k[82<Q[82.s[81pm(a*3dE3l]3h43j>3/T3j,3]h3p73q93sQ3v|3yA3~*3y_3.s3<Q3]h[83>(3[~3|Y3.k3",
    "fB3::3y]2w12%a*3dE3l]3h43j>3/T3j,3]h3p73q93sQ3v|3yA3~*3y_3.s3<Q3k=>(3>(3[~3|Y3.k3fB3::3y]2",
    "z+hx2j>[82]h[82q9[82.k[82<Q[82.s[81dkpm(a*4dE4l]4h44j>4/T4j,4]h4p74q94sQ4v|4yA4~*4y_4.s4<Q",
    "4]h[84>(4[~4|Y4.k4fB4::4y]3w13%a*4dE4l]4h44j>4/T4j,4]h4p74q94sQ4v|4yA4~*4y_4.s4<Q4k=>(4>(4",
    "[~4|Y4.k4fB4::4y]3z+hx3j>[83]h[83q9[83.k[83<Q[83.s[81=5dk(a*4dE4l]4h44j>4/T4j,4]h4p74q94sQ",
    "4v|4yA4~*4y_4.s4<Q4]h[84>(4[~4|Y4.k4fB4::4y]3w13%a*4dE4l]4h44j>4/T4j,4]h4p74q94sQ4v|4yA4~*",
    "4y_4.s4<Q4k=>(4>(4[~4|Y4.k4fB4::4y]3z+hx3j>[83]h[83q9[83.k[83<Q[83.s[83pm(a*5dE5l]5h45j>5/",
    "T5j,5]h5p75q95sQ5v|5yA5~*5y_5.s5<Q5]h[85>(5[~5|Y5.k5fB5::5y]4w14%a*5dE5l]5h45j>5/T5j,5]h5p",
    "75q95sQ5v|5yA5~*5y_5.s5<Q5k=>(5>(5[~5|Y5.k5fB5::5y]4z+hx4j>[84]h[84q9[84.k[84<Q[84.s[81dk(",
    "h.2%h."]),
  (0x1D7CE, [
    "0uidkh:/S3y/3_z3]:3l43k/3?Y3=+3jU3x81i4h:/S3y/3_z3]:3l43k/3?Y3=+3jU3x81=5h:/S3y/3_z3]:3l43",
    "k/3?Y3=+3jU3x82dkh:/S4y/4_z4]:4l44k/4?Y4=+4jU4x81vrh:/S3y/3_z3]:3l43k/3?Y3=+3jU3x80>+n5pI1",
    "n1pI1n3pI1n9pI1n7pI1n0pI1n5pIc,1n1pIc,1n5]>|JpIc,2pI;qr83gZ3oB4t81n1pIoA1n5pIvQ1n1pIvQ1n5p",
    "IvQc,4;qr94oB3|UvQoB3oBvQ|U3vQf:5pIc,5vQc,5gZ5oB4gJ1n1pIvQgJ1n5vQc,z2pI2pIc,z2vQ3vQ]>1n1pI",
    "vQ]>1n5pIvQ@t]>c,4c,]>@t4]>c,4oB@J]>>!3|UvQoB]>>!7f:3oBvQ|U]>>!3vQ|U@J]>l24]>gZ5fY5oY5oB2]",
    ">dGpIvQ@t2pIvQf:]>>!7f:7c,2vQ]>oYpI|U2pI]>oYvQ|U3vQf:oB]>>!4gJ]>>!4f:]>l25gZ]>l22vQ]>gZpI|",
    "U2pI]>gZvQ|U2vQ]>fYpI|U6oB2pI]>bOzXvQ|U5pFvQ|U4fYvQ|U3vQ]>f:oB5bOzX62vQ]>bOzXpI|U7gJ5pI|U2",
    "pI]>oYvQoB1n6l4k[4c,4oB4f:5@G1n2l4k[f:1n5l4k[f:c,1n7l4k[f:1n6k/k[@J2n.k/k[@J2k/k[@Jl4c,2n.",
    "k/k[@Jl4c,2k/k[@Jc,2n.k/k[@Jc,2k/k[@J]>l21n3k/k[@J5y,1n7k/k[@Jy,1n9k/k[@J1n6k/k[@JoB6]>>!6",
    "xv]>22dGzxFACINGS 2n.2]>>!2n.]>>!2]>c,3l22@GpI]>>!3ey4]>>!6c,3tJ1n22]>>!2xv]>2]>l21n8g121n",
    "3y,22y,]>>!2]>>!2y,xv]>2xv]>2y,]>l22]>l21n4y,21n11n92]>>!2xv]>2]>l21n7y,3]>l222%2y,]>>!2]>",
    ">!2y,xv]>2xv]>2]>>!^qpI3dGvQ<k1n01n5pIvQ<k1n1pIvQ<k1n7pIvQ<k1n0pIvQ<k1n7tJ1n5pIvQ<kc,5f:1n",
    "7pIvQ<kf:1n5tJi74RIPPLE @t5g74OTHERS fY3|U2]>|JtJ|U1n1tJ|U1n9tJ|U1n0tJ|U1n5tJ;qr83c,3TOUCH",
    "ES ]>3]>1n7tJ]>1n5tJpI]>1n7tJpI]>1n0tJpI]>pI]>zX71n5tJpI1n1tJpI1n7tJpI1n0tJpI1n5pIvQtJ1n1p",
    "IvQtJ1n7pIvQtJ2<k1n0pIvQtJ1n5pIvQgGtJ1n1pIvQgGtJ1n5<ki71n7<ki7pI]>oXvQ1n0<ki7vQ]>pIgG1n5<k",
    "|U3;qr83tJ1n1<ktJ1n9<ktJ1n0<ktJ1n5<kvQ4f:4;qr93pI3]>1n8<k]>1n5pI<ktJ1n1pI<ktJ1n4pI<ktJy~1n",
    "8pI<ktJzX5pF5|J1n3pI<ktJ1n7pI<ktJ1n0pI<ktJzX51n5vQi71n7vQ1n5vQ|U1n1vQ|U1n5vQ;qr83|U]>>!1n8",
    "vQ]>1n5vQ]>tJ3tJ3<ktJ1n1vQ<ktJ1n4vQ<ktJy~1n3vQ<ktJ1n7vQ<ktJ1n0vQ<ktJzX5pF51n1vQ<ktJc,1n2vQ",
    "<ktJf:6>!1n8vQ<ktJf:zX6pF61n7pIoB1n5pI]>>!1n7pI]>>!1n5pI]>>!]>ho6f:6c,5pIc,5dtc,5pIoA4l2pI",
    "@t6c,4oX4g14g6]>pU1n2pI]>g6]>pU1n5pI]>g6]>|J4fX1n3pI]>4y,1n7pI]>y,4s144%1n0pI]>zX4pF41n5]>",
    "3n.3>!ho4f:4c,3l23dGpIvQ4vQ<k4<ktJ3|J_zk[3z2_zk[3|J]:k[4l4k[3z2l4;qr922n.1TOUCH ?J2v(2dG1G",
    "RASP ?J2v(2dG1STRIKE ?J2v(2dG1d%?J2v(2dG1<)?J2v(2dG1[L[92dG1@Os1?J2%?J2s1v(2%v(2=$1lAs1?J2",
    "%?J2s1v(2%v(2=$1@OlAbA1MOVEMENT-HINGE |Ui7s14%3=$2i7=$2|Ui7bAs15%2>!^1>!=n1v@k?f@1v?k?f@1v",
    "@?J@t%4u]4s14s33~^k+2i1@t3~^k+3bA4~^k+2gG2^~@tv>3~^k+3bA4~^k+2c*%3u]3s12f&%3u]3s13ROTATION",
    " 2e!%3u]3s12d.%3u]3s12/5%3u]3s12.K%3u]3s11TRAVEL-WALLPLANE <]?J3i13bA2<[?J3i13bA2>P2bu@D?J",
    "4i14^~1MOVEMENT-DIAGONAL cA%3u]3s13s32^s%3u]3s13s32dGcA%4u]4s14s33^s%4u]4s14s31v??J@t%4u]4",
    "s14s33~^k+2i1@t3~^k+3bA4~^k+2gG2^~@tv>3~^k+3bAv>4~^k+2c*2f&%3u]3s12e!2d.%3u]3s12/5%3u]3s12",
    ".K%3u]3s11TRAVEL-FLOORPLANE <[?J3i13bA2<]?J3i13bA2>P1v@g6;U%4u]4s14s33nU%4u]4s14s33THREE-Q",
    "UARTER fX%5u]2og%3u]3s12t2%3u]3s13%i12~Tg6i1%5u]5s14^~%5u]5s12g6]d@t2g7gG%4u]1<]?J2i12a,1v",
    "@>P2g6oGlh~J2ogoGlh~J2t2oGlh~J2~ToGlh~J1<]?JoGlh~J2i1oGlh~J2bAoGlh~J1v@g6oGe,2ogoGe,2t2oGe",
    ",2~ToGe,1<]?JoGe,2i1oGe,2bAoGe,1v@~Tho.C%5u]5s11v?g6oGev%5s12ogoGev%i15s1i15%^~5s1^~2t2oGe",
    "v%?J5s1?J5%i15s1i12~ToGev%5s11<[?JoGev2i1oGev2bAoGev1v?g6oGlC%5s12ogoGlC%i15s1i15^~%^~6s1^",
    "~2t2oGlC%?J5s1?J5%i15s1i12~ToGlC%5s11<[?JoGlC2i1oGlC2bAoGlC1v?g6%3u]3s13s33COMBINED 2og%2t",
    "2%2~T?t3%3s11<[?J2i12bA1v?>Pz#1v@bufX%?J4u]?J4%i14u]i11v?bufXoG~J%?J6u]?J6s1?J6%i16u]i16s1",
    "i11v@~^fXlh?J5i11v?~^fXoG~J?J6i11v@k?fZ?J4i11v?k?fZoG~J?J6i11DYNAMIC by%3s12FAST 2?m2]N2;&",
    "2SIMULTANEOUS 3bA2EVERY OTHER ^F2GRADUAL 1np2RIM 2v@@t3TILT 2v?@t2v@g62v?g62v>fX1k7h|:0x=l",
    "2^E5|UzHi78^E1kV@t|U3w|3i71DREAMY kVw|i73i7w|3|Uw|3w||U1FOREHEAD w|2f@2~[1kYy,2SQUEEZED 2f",
    "f1kUBLINK ?J3v(1kYnTy,2~ky,2nTff2WIDENING v>1kUWINK 1EYELASHES |U2i72lJ1kX@t3i13bA1kW@t3i1",
    "3bA1kXg71kWg71kXf01e&PUFFED 2w|2@$1]Ne&n)3vQ3t81i(1x=w|2f@2~]2WIGGLES 1awdczX2SUCKING pF2B",
    "LOW %<^2SUCK %<^1d[INHALE 2EXHALE 1v<ffw|3l23f@2?q3~[3y,2lj3~[3y,2y,fX3l23~[3z14~[4#X3;@4~",
    "[4#X2rQ3l23~[2]N3l23@$1tDPRESSED ^31tCtbz2|X2|Xz2tb1v<f(2~]?J3i11^e@lzXFAR 2LICKING tD2^Id",
    "GtD3^qpUv<2pUv<;&2MOVES AGAINST CHEEK 2ey@lzX3pUv<1TEETH 2v>2y~^e4v>3tD4v>2BITE tD1v@p<1v?",
    "p<1wy1nQ1EXCITEMENT 1>woCSPINE 3POSITIONS 1WALLPLANE >woCv=1FLOORPLANE >woCv=1>w^ElgWAIST ",
    "1TORSO-WALLPLANE @tSTRETCH 2g7c*1TORSO-FLOORPLANE TWISTING 1|Xdi^ElgoCJOINTS 1LIMB COMBINA",
    "TION "]),
  (0x1DA7E, [
    "0>+k?1LOCATION-WALLPLANE ?$1LOCATION-FLOORPLANE ?$1tSHEIGHT 2~m2DEPTH 2npwy2TORSO 2LIMBS D",
    "IGITS 1ft1lo@q1=_1fr1z%"]),
  (0x1DF00, [
    "0s7%$krh=!TRILL 3<K=rlx1$%(_flx1%$<KqM1$%(r*!c(1%$s[!<GoX3_f#D!c(3<Kjq3_f;a!tYss*<GoX3[d!o",
    "X*<GoX1$<Gf9!<GoX1%$j&!i1cg7*g03_f[d!g01$p5mn@q!g02@yeR!g02%(_fqM1%$r*!k|3hhh=!zuoX3r*!c(*",
    "zuoX3jq!zuoX3_f;a!zuoX3;a!k|*zuoX3]Rh=!zuoX3k2!zuoX3hhh=!<GoX3ow!@z*<GoX3yh!<GoX3]Rh=!<GoX",
    "3eR!<GoX3=G!g0"]),
  (0x1E000, ["0fsmk$cK3eB3|o3mj3iK3#g3/Z"]),
  (0x1E008, ["0fsmk$/P3ps3pQps3ow3iF3q13tN3wS3wg3y&3:Q3<o3?l3_i3|D3le3n["]),
  (0x1E01B, ["0fsmk$>.3_J3fM3>F3#c3#b3#W"]),
  (0x1E023, ["0fsmk$#=3%#|"]),
  (0x1E026, ["0fsmk$#s3p8%#|3dP#|3p8dP#|3k#"]),
  (0x1E100, [
    "0y8:>oL$uC4_A4NTA 4[e4nM4wW4~%4NKA 4eT4r,4=I4/B4NCA 4NTSA 4qN4gq4yZ4x#4|e4NTXA 4TXA 4k54;c",
    "4:+4#F4NQA 4zi4#B4NPA 4iH4NPLA 4nP4vb4.+4ly4</4aI4aR4ow4_^4yh4y(4i/4jF4~D"]),
  (0x1E130, [
    "0y8:>oLTONE-B 3TONE-M 3TONE-J 3TONE-V 3TONE-S 3TONE-G 3TONE-D 3)lW.95THING 5tS5ANIMAL 5INV",
    "ERTEBRATE 4#A#A3[7sy"]),
  (0x1E140, ["0y8:>oLh:/S4y/4_z4]:4l44k/4?Y4=+4jU4x8"]),
  (0x1E14E, ["0y8:>oLtWNYAJ 3fYeT"]),
  (0x1E290, [
    "0TOTO $zi2cQ2[e2gq2qN2ly2uC2wW2w%2=I2e<2#F2~E2pw2nM2;c2r,2ow2d]ow2po2d]po2_^2i/2d]i/2j.2d]",
    "j.2yh2ad2d]ad2aI1)<n^5"]),
  (0x1E2C0, [
    "0~K$aR2aI2cQ2eT2gq2ly2#F2.f2r,2wW2zi2[e2]32k52=I2>F2pw2/B2~E2|e2qN2yh2b%2;c2uC2q|2nM2i/2ow",
    "2w%2_^2LLHA 2_A2^t2y$2AANG 2bL2pN2y~2jk2aT2yZ2UEN 2YIH 1^5_b2TUPNI 2rc2KOINI 1h:/S2y/2_z2]",
    ":2l42k/2?Y2=+2jU2x8"]),
  (0x1E2FF, ["0~KNGUN )"]),
  (0x1E7E0, ["0kD[7HHYA 2HHYU 2HHYI 2HHYAA 2HHYEE 2HHYE 2HHYO "]),
  (0x1E7E8, ["0kD[7nCn!2HHWI 2HHWEE 2HHWE "]),
  (0x1E7ED, ["0kD[7nCwL3wK"]),
  (0x1E7F0, ["0kD[7nC;93;83;73eM3eL3r/3r#3r~3nI3nH3nG3lw3lv3:$3:!"]),
  (0x1E800, [
    "0u*rJ[7t;rH3t<qN3t=r:3M065 qu3M095 qt3M076 ri3M048 ra3M179 KUA 3M004 ~j3M005 ~E3M006 ~|3M1",
    "26 ~63M118 ~33M114 ~:3M045 ~w3M194 WUI 3M143 ~73M061 WVI 3M049 WVA 3M139 WVE 3M007 v53M008",
    " uW3M009 MUN 3M059 u)3M094 vi3M154 v#3M189 MUEN 3M010 dN3t>cQ3t?d&3M150 c]3M097 c<3M103 dn",
    "3M138 de3t@ow3t[aI3t]_^3M163 jF3M100 i/3M165 y(3M147 yh3M137 jS3M131 pF3M135 pF3M195 bH3M1",
    "78 jk3M019 >~3M020 =I3M021 @<3M162 =y3M116 =s3M136 ?[3M079 ?y3M196 SIA 3t#s#3t/r,3t!tf3M08",
    "4 si3M073 se3M054 t13M153 tR3M110 tYse3t^hm3t_gq3M018 in3M089 hW3M180 iV3M181 iI3M022 ]^3t",
    "|[e3t~_53M091 ]B3M055 [*3M104 ^g3M069 ^13t$p~3t%pw3t&qJ3M157 p?3M113 p>3M160 qG3M063 qA3M1",
    "75 tYqA3t(#k3t)#F3t*#=3M109 #33M080 #13M141 #z3M121 #s3M034 kt3M035 k53M036 lm3M078 kk3M07",
    "5 ki3M133 lR3M088 lM3M197 FUA 3M101 kc3M037 x63M038 NAN 3M039 yL3M117 w<3M169 NON 3M176 n$",
    "3t+nM3M186 oc3M040 nz3M096 no3t,oW3M140 oN3M083 HEEI 3M128 HOOU 3M053 n,3M130 nY3M087 oh3M",
    "052 n=3M193 oV3M046 HUAN 3M090 xE3uAw+3M082 xH3M115 xB3M146 xA3M156 xG3M120 xF3M159 NGGAA ",
    "3M127 NGGUA 3M086 tYxA3M106 tYxG3M183 tYxF3M155 mb3M111 ly3M168 m/3M190 mH3M166 GUEI 3M167",
    " GUAN 3M184 w*3M057 xQ3M177 NGUAN 3M068 .s3M099 zi3M050 :=3M081 .O3M051 .I3M102 :Y3M066 :K",
    "3M145 ut3M062 um3M122 ux3M047 uq3M188 uq3M072 up3M172 uw3M174 uv3M187 MBUU 3M161 tYup3M105",
    " tYuw3M142 tYuv3M132 rs3M092 rp3M074 rv3uBrr3M108 rq3M112 ru3M158 rt3M124 mA3M056 l*3M148 ",
    "mD3M093 l,3M107 l+3M071 mC3M070 mB3M171 ;c3M123 ws3M129 wm3M125 ww3M191 wr3M119 wq3M067 wv",
    "3M064 wt3M152 xd3M192 xn3M149 xi3M134 xm3M182 |.3M185 |e3M151 |+3M173 |q3M085 |n3M144 |%3M",
    "077 |~3M164 NYIN 3M058 NYAN 3M170 NYUN 3M098 NYEN 3M060 NYON "]),
  (0x1E8C7, ["0u*rJh:y/3_z3]:3l43k/3?Y3=+3jU3x82fsyHTEENS 4]M4oj4]z4]K]z4oi]z4v3"]),
  (0x1E900, [
    "0ab($a#3gs3sB3v03cQ3?M3.I3dK3;c3i/3k53ow3yh3hj3#j3~X3yL3qW3#F3_^3p/3fB3nM3;A3ly3yZ3_53xT3|",
    "e3q|3l+3/H3rt3>F1%$a#3gs3sB3v03cQ3?M3.I3dK3;c3i/3k53ow3yh3hj3#j3~X3yL3qW3#F3_^3p/3fB3nM3;A",
    "3ly3yZ3_53xT3|e3q|3l+3/H3rt3>F1a#sy1|)sy1mIu81nX1f=vh1GEMINATE f=vh1yF1wfu8"]),
  (0x1E950, ["0abh:/S2y/2_z2]:2l42k/2?Y2=+2jU2x8"]),
  (0x1E95E, ["0abpQkNu82;Yu8"]),
  (0x1EC71, [
    "0pJ?6yHy/3_z3]:3l43k/3?Y3=+3jU3x83]K3_q3]q3l03ky3?43>A3jZ3xa3y/oi3_zoi3]:oi3l4oi3k/oi3?Yoi",
    "3=+oi3jUoi3x8oi3y/]y3_z]y3]:]y3l4]y3k/]y3?Y]y3=+]y3jU]y3x8]y3]K]y3_q]y3]q]y3l0]y3ky]y3?4]y",
    "3>A]y3jZ]y3xa]y3sN3LAKHAN 2sNu82yHKAROR 3KARORAN 3:ky/4_z4]:4l44k/4?Y4=+4jU4x82:A2l8y/;U4n",
    "T3]:;V2=Cu82yHa,y/4_z4]K]y2a,sNu8"]),
  (0x1ED01, [
    "0OTTOMAN ?6yHy/3_z3]:3l43k/3?Y3=+3jU3x83]K3_q3]q3l03ky3?43>A3jZ3xa3y/oi3_zoi3]:oi3l4oi3k/o",
    "i3?Yoi3=+oi3jUoi3x8oi3y/]y3_z]y3]:]y3l4]y3k/]y3?Y]y3=+]y3jU]y3x8]y3]K]y3_q]y3]q]y3l0]y3ky]",
    "y3?4]y3>A]y3jZ]y3xa]y2MARRATAN 2a,yH_z4]:4l44k/4?Y4=+4jU4x84]K4l4oi4?Yoi4_z]y4]K]y2l8y/nT4",
    "?2"]),
  (0x1EE00, ["0biuia@2c#2p@2gy"]),
  (0x1EE05, [
    "0biui~X2/G2nP2[r2#42qW2sP2u~2xz2=z2av2km2=K2;B2;!2>12]C2]b2q#2]62gt2/F2m32iYc#3xz3km3;B"]),
  (0x1EE21, ["0biuipQc#3p@"]),
  (0x1EE24, ["0biuipQn:"]),
  (0x1EE27, ["0biuipQnP"]),
  (0x1EE29, ["0biuipQ#43qW3sP3u~3xz3=z3av3km3=K3;B"]),
  (0x1EE34, ["0biuipQ>13]C3]b3q#"]),
  (0x1EE39, ["0biuipQgt"]),
  (0x1EE3B, ["0biuipQm3"]),
  (0x1EE42, ["0biui[up@"]),
  (0x1EE47, ["0biui[unP"]),
  (0x1EE49, ["0biui[u#4"]),
  (0x1EE4B, ["0biui[usP"]),
  (0x1EE4D, ["0biui[uxz3=z3av"]),
  (0x1EE51, ["0biui[u=K3;B"]),
  (0x1EE54, ["0biui[u>1"]),
  (0x1EE57, ["0biui[uq#"]),
  (0x1EE59, ["0biui[ugt"]),
  (0x1EE5B, ["0biui[um3"]),
  (0x1EE5D, ["0biui[uiYxz"]),
  (0x1EE5F, ["0biui[uiY;B"]),
  (0x1EE61, ["0biui@yc#3p@"]),
  (0x1EE64, ["0biui@yn:"]),
  (0x1EE67, ["0biui@ynP3[r3#43qW"]),
  (0x1EE6C, ["0biui@yu~3xz3=z3av3km3=K3;B"]),
  (0x1EE74, ["0biui@y>13]C3]b3q#"]),
  (0x1EE79, ["0biui@ygt3/F3m33iYc#"]),
  (0x1EE7E, ["0biui@yiYkm"]),
  (0x1EE80, ["0biuit3a@3c#3p@3gy3n:3~X3/G3nP3[r3#4"]),
  (0x1EE8B, ["0biuit3sP3u~3xz3=z3av3km3=K3;B3;!3>13]C3]b3q#3]63gt3/F3m3"]),
  (0x1EEA1, ["0biuii4c#3p@3gy"]),
  (0x1EEA5, ["0biuii4~X3/G3nP3[r3#4"]),
  (0x1EEAB, ["0biuii4sP3u~3xz3=z3av3km3=K3;B3;!3>13]C3]b3q#3]63gt3/F3m3"]),
  (0x1EEF0, ["0biuizCu~!nP![|3nP!gy"]),
  (0x1F000, [
    "0MAHJONG ^Di*~p2?/~p2~a~p2x;~p2;_ic2m?ic2~hic2y/yse^2_zyse^2]:yse^2l4yse^2k/yse^2?Yyse^2=+",
    "yse^2jUyse^2x8yse^2y/yscb2_zyscb2]:yscb2l4yscb2k/yscb2?Yyscb2=+yscb2jUyscb2x8yscb2y/ysfZ2_",
    "zysfZ2]:ysfZ2l4ysfZ2k/ysfZ2?YysfZ2=+ysfZ2jUysfZ2x8ysfZ2PLUM 2ORCHID 2ca2CHRYSANTHEMUM 2SPR",
    "ING 2SUMMER 2AUTUMN 2WINTER 2qE2cT"]),
  (0x1F030, ["0iS^Do0cT"]),
  (0x1F062, ["0iS^D|vcT"]),
  (0x1F0A0, [
    "0:EebcT2a4ys?(2_zys?(2]:ys?(2l4ys?(2k/ys?(2?Yys?(2=+ys?(2jUys?(2x8ys?(2]Kys?(2pyys?(2r4ys?",
    "(2;Xys?(2rLys?("]),
  (0x1F0B1, [
    "0:Eeba4ysnv2_zysnv2]:ysnv2l4ysnv2k/ysnv2?Yysnv2=+ysnv2jUysnv2x8ysnv2]Kysnv2pyysnv2r4ysnv2;",
    "Xysnv2rLysnv2;_qE"]),
  (0x1F0C1, [
    "0:Eeba4yshs2_zyshs2]:yshs2l4yshs2k/yshs2?Yyshs2=+yshs2jUyshs2x8yshs2]Kyshs2pyyshs2r4yshs2;",
    "Xyshs2rLyshs2d1qE"]),
  (0x1F0D1, [
    "0:Eeba4ysfl2_zysfl2]:ysfl2l4ysfl2k/ysfl2?Yysfl2=+ysfl2jUysfl2x8ysfl2]Kysfl2pyysfl2r4ysfl2;",
    "Xysfl2rLysfl2~hqE2FOOL "]),
  (0x1F100, [
    "0h:/Slo@q2ft1y/ft1_zft1]:ft1l4ft1k/ft1?Yft1=+ft1jUft1x8ft0h]fY=5h:/S1w:fY=5h:/S0fY/S!?g1bW",
    "+1iQ)!z4cX0z&s7($aI4cL4eR4gp4i/4k44lx4nL4ow4pu4qM4r*4t:4wT4yh4zh4:*4;a4=G4[d4_^4|d4~D4~$4#",
    "D4/A0^n>5d<s7($=G0fYpms7($eR5;a1eq1WZ 0COPYLEFT [80@Ls7($aI4cL4eR4gp4i/4k44lx4nL4ow4pu4qM4",
    "r*4t:4wT4yh4zh4:*4;a4=G4[d4_^4|d4~D4~$4#D4/A1ol1wE1SD 1@S1PPV 1~20w:fYs7($aI5cL5eR5gp5i/5k",
    "45lx5nL5ow5pu5qM5r*5t:5wT5yh5zh5:*5;a5=G5[d5_^5|d5~D5~$5#D5/A0;quy)1MD )1MR )0fYeo1eR!z4cX",
    "1ofkz0w:@Ls7($aI5cL5eR5gp5i/5k45lx5nL5ow5pu5qM5r*5t:5wT5yh5zh5:*5;a5=G5[d5_^5|d5~D5~$5#D5/",
    "A0gJw:@Ls7($zh0w:@Lo:2zi2=I2aV2~20@KDJ 0@LCL 1COOL 1lb1ID 1w~1w$1y:1SOS 1|U!kNu81VS 1]:gp1",
    "=w=q1_zqM1l4qM1jUqM1k/:My/1=+:My/1_w:M_z1?4zh1y/oi_qzh1s7%$gp1HC 1HDR 1HI-RES 1LOSSLESS 1S",
    "HV 1UHD 1VOD 0uh~?[8"]),
  (0x1F1E6, [
    "0REGIONAL pK[8$aI4cL4eR4gp4i/4k44lx4nL4ow4pu4qM4r*4t:4wT4yh4zh4:*4;a4=G4[d4_^4|d4~D4~$4#D4",
    "/A0@KoDHOKA 0@LqlKOKO 2=I"]),
  (0x1F210, [
    "0@Lf6|NIDEOGRAPH-624B 3IDEOGRAPH-5B57 3IDEOGRAPH-53CC 1qlhR1f6|No_3IDEOGRAPH-591A 3IDEOGRA",
    "PH-89E3 3IDEOGRAPH-5929 3IDEOGRAPH-4EA4 3IDEOGRAPH-6620 3IDEOGRAPH-7121 3IDEOGRAPH-6599 3I",
    "DEOGRAPH-524D 3IDEOGRAPH-5F8C 3IDEOGRAPH-518D 3IDEOGRAPH-65B0 3IDEOGRAPH-521D 3IDEOGRAPH-7",
    "D42 3IDEOGRAPH-751F 3IDEOGRAPH-8CA9 3IDEOGRAPH-58F0 3IDEOGRAPH-5439 3IDEOGRAPH-6F14 3IDEOG",
    "RAPH-6295 3IDEOGRAPH-6355 3IDEOGRAPH-4E00 3o^3IDEOGRAPH-904A 3IDEOGRAPH-5DE6 3IDEOGRAPH-4E",
    "2D 3IDEOGRAPH-53F3 3IDEOGRAPH-6307 3IDEOGRAPH-8D70 3o|3IDEOGRAPH-7981 3IDEOGRAPH-7A7A 3IDE",
    "OGRAPH-5408 3IDEOGRAPH-6E80 3IDEOGRAPH-6709 3IDEOGRAPH-6708 3IDEOGRAPH-7533 3IDEOGRAPH-527",
    "2 3IDEOGRAPH-55B6 3IDEOGRAPH-914D "]),
  (0x1F240, [
    "0^n>5d<f6|NIDEOGRAPH-672C 5o^5o_5IDEOGRAPH-5B89 5IDEOGRAPH-70B9 5o|5IDEOGRAPH-76D7 5IDEOGR",
    "APH-52DD 5IDEOGRAPH-6557 "]),
  (0x1F250, ["0fYo]ADVANTAGE 2ACCEPT "]),
  (0x1F260, ["0<~[8lWlm3tf3SHOU 3~*3SHUANGXI 3CAI "]),
  (0x1F300, [
    "0CYCLONE 0FOGGY 0ff|G0x3!STARS 0SUNRISE z2MOUNTAINS 10f5b#DUSK 0SUNSET z2eA0RAINBOW 0d~b#x",
    "30~R~T0VOLCANO 0MILKY ~10i)mmEUROPE-AFRICA 2AMERICAS 2ASIA-AUSTRALIA 0mm!MERIDIANS 0w~vv[8",
    "0~0gBvv[80k^;Uvv[80~0mdvv[80lovv[80~Lmdvv[80s5;Uvv[80~LgBvv[80gBvv0w~vv!k70k^;Uvv!k70s5;Uv",
    "v!k70lovv!k70[B!k70GLOWING @c0SHOOTING @c0]e0d1ik0~h[B2!%fj2c!fj4!;p0fj!;p2?v2s&2TORNADO 0",
    "FOG 0~pdck70o5iO0TACO 0BURRITO 0CHESTNUT 0SEEDLING 0EVERGREEN ^.0DECIDUOUS ^.0zx^.0CACTUS ",
    "0o5.00TULIP 0CHERRY db0ROSE 0HIBISCUS 0SUNFLOWER 0db0i&ysMAIZE 2<T0HERB 0l4sgCLOVER 0MAPLE",
    " sg0FALLEN sg0sglJpF~p0MUSHROOM 0TOMATO 0AUBERGINE 0GRAPES 0u$0WATERMELON 0TANGERINE 0LEMO",
    "N 0BANANA 0PINEAPPLE 0;_bc0m?bc0PEAR 0PEACH 0CHERRIES 0STRAWBERRY 0HAMBURGER 0?iysPIZZA 0u",
    ">y~dm0POULTRY ss0<TCRACKER 1c50COOKED <T0CURRY *<T0STEAMING dy0SPAGHETTI 0d@0lcFRIES 0ROAS",
    "TED [0:50DANGO 0ODEN 0SUSHI 0FRIED >z0k_eW![3DESIGN 0?;o;f,0SHAVED o;0o;f,0DOUGHNUT 0f#0CH",
    "OCOLATE cg0CANDY 0LOLLIPOP 0CUSTARD 0HONEY :40SHORTCAKE 0BENTO d.0:4yslS0COOKING 0lX*r30TE",
    "ACUP ~vna0SAKE du*gY0~sml0COCKTAIL ml0^(ih0c_v$0fbc_MUGS 0cSdu0lX*r3!PLATE 0du!POPPING COR",
    "K 0POPCORN 0<S0WRAPPED PRESENT 0BIRTHDAY eW0JACK-O-LANTERN 0fL^.0kgfL0FIREWORKS 0FIREWORK ",
    "SPARKLER 0c60.APOPPER 0CONFETTI c50TANABATA ^.0gJFLAGS 0PINE hU0p.iR0CARP STREAMER 0~pCHIM",
    "E 0vvVIEWING CEREMONY 0=lSATCHEL 0GRADUATION e90nt!^Iy~]9sl0dwysFLOWERS 0v1u?0REMINDER <S0",
    "wCq]!JACKS 0STUDIO vN0s@SLIDER 0f|KNOBS 0c>b=wCx_1hcwCx_0k<FRAMES 0ADMISSION TICKETS 0CARO",
    "USEL o40FERRIS ~f0<zCOASTER 0FISHING :R*k_0vN0MOVIE e10CINEMA 0HEADPHONE 0ARTIST PALETTE 0",
    "^inj0CIRCUS ]O0TICKET 0CLAPPER dg0PERFORMING b:0|<l[0h_oF0SLOT uE0BILLIARDS 0l[hv0BOWLING ",
    "0lH:ECARDS 0wCx]0v(wCx_0SAXOPHONE 0GUITAR 0wCq]0TRUMPET 0VIOLIN 0wCSCORE 0=BSHIRT !SASH 0]",
    "L;h*c50?c*?cdr0BASKETBALL *HOOP 0CHEQUERED k$0SNOWBOARDER 0RUNNER 0SURFER 0SPORTS u?0TROPH",
    "Y 0o4;g0AMERICAN lU0RUGBY lU0SWIMMER 0~8LIFTER 0GOLFER 0;gMOTORCYCLE 1ea0gDcq*c50VOLLEYBAL",
    "L 0kuoO@k*c50o;oO@k*PUCK 0[k]LPADDLE *c50?vCAPPED v:0CAMPING 0BEACH !|G0d,f?0o9eA0f50DEREL",
    "ICT o9d,0CLASSICAL d,0DESERT 1ISLAND 0wiPARK 0STADIUM 0o9d,1!GARDEN 0ytd,0p.:2yt0kH:2yt0HO",
    "SPITAL 0cf0AUTOMATED TELLER uE0o60t7o60CONVENIENCE @s0=l0DEPARTMENT @s0FACTORY 0IZAKAYA LA",
    "NTERN 0p.eh0kHeh0~h.U0d1.U0~V~hk$1d1k$0<?0d1<?0LABEL 0BADMINTON ;h*SHUTTLECOCK 0dx*+0AMPHO",
    "RA 0jgvhFITZPATRICK TYPE-1-2 3_>3_?3_@3_[0;x0v;0zc0~RBUFFALO 0f+0]/0LEOPARD 0;f0ei0ic0CROC",
    "ODILE 0~d0SNAIL 0?t0o40;s0GOAT 0>20vl0ROOSTER 0CHICKEN 0iO0.]0df0j80OCTOPUS 0@D>50BUG 0ANT",
    " 0HONEYBEE 0LADY c|0k_0^(k_0BLOWFISH 0_h0HATCHING fC0cSfC0FRONT-FACING cSfC0dW0PENGUIN 0KO",
    "ALA 0POODLE 0DROMEDARY e00BACTRIAN e00DOLPHIN 0v;k70f+k70]/k70;fk70eik70ick70SPOUTING ~d0o",
    "4k70vlk70iOk70.]k70lfk70HAMSTER k70WOLF k70c?k70PANDA k70.]x=0.EPRINTS 0CHIPMUNK 0kY0kU0i&",
    "0x=0v<0^e0~h|U:PcVpI1i7:PcVpI1sl:PcVpI1,:PcVpI0FISTED nZ)0~VnZ)0y:nZ)0]?|U)1i7)0CLAPPING n",
    "b)0y,nb)0gN0~znj0EYEGLASSES 0NECKTIE 0T-SHIRT 0JEANS 0ig0KIMONO 0BIKINI 0~zfi0PURSE 0HANDB",
    "AG 0POUCH 0MANS >n0ATHLETIC >n0HIGH-HEELED >n0~z=31BOOTS 0FOOTPRINTS 0BUST pF?C0BUSTS pF?C",
    "0BOY 0GIRL 0uW0~y0kb0uW*~yoRnb0_zu)oRnb1WOMEN oRnb0:TOFFICER 0~y!BUNNY i(0BRIDE !VEIL 0.9!",
    "BLOND nQ0uW!GUA .sMAO 2_d0y>uW1~y0cS0f?WORKER 0PRINCESS 0p.OGRE 1GOBLIN 0m90cSANGEL 0EXTRA",
    "TERRESTRIAL a~0a~MONSTER 0IMP 0?e0pMDESK .90GUARDSMAN 0DANCER 0LIPSTICK 0NAIL :U0k7MASSAGE",
    " 0HAIRCUT 0BARBER :R0SYRINGE 0PILL 0rQu80t7$0<k0GEM @p0rQ0dw0COUPLE !nt0WEDDING 0BEATING n",
    "t0d!nt0_znv0SPARKLING nt0GROWING nt0nt!+0ddnt0m?nt0#5nt0:^nt0nt!<S0<Lnv0nthU0hrSHAPE !aIiX",
    "pU0j6s%BULB 0bM[80BOMB 0?h[80COLLISION [80SPLASHING [Z[80ik0g%[80PILE ys:Y0FLEXED BICEPS 0",
    "iB[80@Ac60]xc60~hlH0oiPOINTS [80vjc00g3EXCHANGE 0nxiQ)0gAeb0BANKNOTE !#6)2iQ)2kG)2:6)0vj!W",
    "INGS 0e|!|1^=*#6)0SEAT 0.afy0BRIEFCASE 0MINIDISC 0lDh&0zFh!0DVD 0k.lN0y,k.lN0zo!g01k8|U0eY",
    "0TEAR-OFF eY0ebpI0e|!|1^=2i9^=0cge|0CLIPBOARD 0:_0<|:_0PAPERCLIP 0@t<+0^]<+0dpTABS 0LEDGER",
    " 0NOTEBOOK 1!DECORATIVE f)0ffdo0y,do0m?do0dddo0zIdo0BOOKS 0w8BADGE 0SCROLL 0MEMO 0]G;>0PAG",
    "ER 0khuE0=ebV0PUBLIC ADDRESS LOUDSPEAKER 0CHEERING MEGAPHONE 0OUTBOX ^z0INBOX ^z0PACKAGE 0",
    "E-MAIL [80INCOMING jy0jy!i9+aZ0ffuR!tck$3;qk$0y,uR!;qk$3tck$0POSTBOX 0:3o10w!0vf.p2!<h+b#s",
    "l0VIBRATION MODE 0vf.pOFF 0xvvfPHONES 0bV!cl0e11!FLASH 0|<e10TELEVISION 0;l0VIDEOCASSETTE ",
    "0k<PROJECTOR 0PORTABLE STEREO 0PRAYER BEADS 0TWISTED <hb.0fd<h*sry,fXb.7!fYy/z71i9*|1y,fXb",
    ".0bWi9*|1y,fXb.0t8d#[80n)d#[80?*!e5@z11!y/?~~T2]:?~~U0cu0j6PLUG 0snuMml0<duMml0tT!INK .S0f",
    "ftT!q[0q[0tT0y,tT0c%1!e5@z0dp0tB[80;leJ0cT!sr+aZ0jp!sr+aZ0y~!kNu8!sl,+aZ0SOON !<h+aZ0^i!|1",
    "+aZ0xvy/|JjV[80q^]K0INPUT [8lWs7(s>4%s>3NUMBERS 3[93s7s>0k]0j6TORCH 0~@0nW0yO*dl0HOCHO 0PI",
    "STOL 0MICROSCOPE 0TELESCOPE 0CRYSTAL c50?Y:N@c!vQiX0p.[8lWBEGINNER 0^_EMBLEM 0d1@KeJ0~h@Ke",
    "J0s1;_fX1ddfX1zIhr1ddhr0%zIhr1ddhr0|V;_^@0i8;_^@0|V%;_^@0i8%;_^@0tb,>N~hfX0|X,>N~hfX0fYgG:",
    "W0gG:W!nUc&20x[sl=]!]:iZ1,=]!]:iZ0[8lWMARKS CHAPTER 0~hs7gG0nxs7gG0CELTIC gG0y[[80i6ys.J0K",
    "AABA 0MOSQUE 0SYNAGOGUE 0MENORAH !x8BRANCHES 0dyysHYGIEIA 0fck7y/ym2_zym2]:ym2l4ym2k/ym2?Y",
    "ym2=+ym2jUym2x8ym2]Kym2j9ym2_nym2ONE-THIRTY 2TWO-THIRTY 2THREE-THIRTY 2FOUR-THIRTY 2FIVE-T",
    "HIRTY 2SIX-THIRTY 2SEVEN-THIRTY 2EIGHT-THIRTY 2NINE-THIRTY 2TEN-THIRTY 2ELEVEN-THIRTY 2TWE",
    "LVE-THIRTY 0,?*2!y/?~~T3]:?~~U0BULLHORN 1!?~~U0RINGING c%0do0CANDLE 0MANTELPIECE fc0d1?e*g",
    "I0xvPIRACY 0oS0uWpFBUSINESS @(LEVITATING 0SLEUTH zHSPY 0g![E0SPIDER 1WEB 0JOYSTICK 0uWDANC",
    "ING 0slnZ]G;>0]G;>!zo0,nZ]G;>0~h^r]G0d1^r]G0]Gy~^iysMODEM 0CLAMSHELL vf.p0cTysjy0@ajy0jy!s",
    "&0lLjy0.Sz2@ajy0LINKED PAPERCLIPS 0d1:_0tbsl.T2BALLPOINT .S2l3.S2PAINTBRUSH 2CRAYON 0sl~_n",
    "Z0_fy:nZ)0;qnZ!k[@F0<K;qnZ!k[@F1]?|U)2i7)1|:nZ1nZ!vQk?kP0;qnZ!z)dGvQ*<kk[0~hi7:PslnZpI0>$~",
    "hsl:PpI2,:PpI1d1sl:PpI2,:PpI0d1sl:PcVpI1,:PcVpI0>$~h|U:PpI2i7:PpI1d1|U:PpI2i7:PpI0d1|U:PcV",
    "pI1i7:PcVpI1nt0hdfy0q]*v;0]:NETWORKED COMPUTERS 0:q0POCKET CALCULATOR 0d1ng>5lDh&0~hng>5lD",
    "h&0?;>5lDh&0[[CARTRIDGE 0WIRED q]0y/eJv;0_zeJv;0]:eJv;0TRACKBALL 0y=.afy0ngh&0=q0:qo>0kho>",
    "0zFh!o>0iL!]13*.v2.v"]),
  (0x1F5BC, [
    "0la!.v2TILES 2bH~$0d1lN0lN0y,lN0ebpIDIVIDERS 1k.d.0k.CABINET 0jjx]2zo2zm0x]1zo1zm0jjiL1zo1",
    "zp0iL0zo0zp0WASTEBASKET 0@Dx]zm1eYzm0hd~q0MINIMIZE 0MAXIMIZE 0z50fd,*sl=]b.0e5~$0pGlQ?7[80",
    "hVlQ?7[80COMPRESSION 0y=q[0ROLLED-UP w!0zo!fY]10@oe|0gwr30tD0SPEAKING nppF?C0]:;.aZ2c&2sl2",
    ",0sl@Ad(0,@Ad(0_z@Ad)0]:@Ad)0sl]xd(0,]xd(0slbMd(0,bMd(0vud(0s&vud(20c8d.!c81=r~$1d.!=r~$1d",
    "k=r~$1d.!dk=r~$0s%e!u80c8d.!dke!0WORLD u20MOUNT FUJI 0TOKYO TOWER 0STATUE ysLIBERTY 0?CysJ",
    "APAN 0MOYAI 0m@k72!?rkY0k7![,ysqI0?rk7!y,v<5*?rkY6fq[Z6]$kY3HALO 3o20~tk70?rk7!?rkY0k7SAVO",
    "URING DELICIOUS lS0;(k70?rk7!nukY3[E0SMIRKING k70w|k70EXPRESSIONLESS k70UNAMUSED k70k7!fq[",
    "Z0PENSIVE k70CONFUSED k70CONFOUNDED k70rRk70k7THROWING aIrQ0rRk7!?rkY3ffkY0k7!STUCK-OUT ^e",
    "4*~tkU5]$kY0h/k70WORRIED k70ANGRY k70:7k70gOk70PERSEVERING k70k7!LOOK ysTRIUMPH 0h/eI;(k70",
    "lkk7!y,v<0ANGUISHED k70FEARFUL k70~4k70SLEEPY k70TIRED k70GRIMACING k70LOUDLY gOk70k7!y,v<",
    "0HUSHED k70k7!y,v<*fq[Z1SCREAMING pFFEAR 0ASTONISHED k70FLUSHED k70?hk70iBk70k7~vv<1!MEDIC",
    "AL uh0m@eik7!?rkY0eik7![,ysqI0?reik7!y,v<4nukY0eik7!WRY ?q0rReik7!ffkY0:7eik70gOeik70~4eik",
    "70?jlkk71?rk70UPSIDE-DOWN k70k7!<.kY2xvGOOD mS2y:mS0.9BOWING DEEPLY 0SEE-NO-EVIL vl0HEAR-N",
    "O-EVIL vl0SPEAK-NO-EVIL vl0HAPPY .9;ry/nZ0.9;rdtnbpFCELEBRATION 1lk1!:7k72FOLDED nb0x;~a:P",
    "sg0?/~a:Psg0x;i*:Psg0?/i*:Psg0_fx;~a:Psg1?/~a:Psg1x;i*:Psg1?/i*:Psg0x;~a:P|?sg0?/~a:P|?sg0",
    "x;i*:P|?sg0?/i*:P|?sg0nxx;~a:P|?sg1?/~a:P|?sg1x;i*:P|?sg1?/i*:P|?sg0x;~a:Pd*0?/~a:Pd*0x;i*",
    ":Pd*0?/i*:Pd*0nxx;~a:Pd*1?/~a:Pd*1x;i*:Pd*1?/i*:Pd*0HOLLOW ;1@KzO4pFd1@K0SOLID ;1@KzO4pFd1",
    "@K0sr<w0|1<w0<h<w0i9<w0=rs$j+zO0nx=rs$j+zO0s$y,j+zO0nxs$y,j+zO1bGzO0[XbGzO0=5nxi1_fft;3u8z",
    "O3ft;3u8zO2t8i1ft;3u8zO0nxp2zO0=5p2zO0nx=5p2zO0|xnx?>2<J?>0e$dg0<Je$dg0<w0HELICOPTER 0@htU",
    "0;oea0HIGH-SPEED ^w2!eCx=0^w0METRO 0s%RAIL 0STATION 0TRAM 1ea0eH0y#eH0TROLLEYBUS 0eH@q0MIN",
    "IBUS 0AMBULANCE 0k]jr0:Tea0y#:Tea0[!0y#[!0b(0y#b(0RECREATIONAL VEHICLE 0DELIVERY ^)0ARTICU",
    "LATED LORRY 0TRACTOR 0MONORAIL 0v:;o0[N;o0v:CABLEWAY 0AERIAL TRAMWAY 0>i0ROWBOAT 0SPEEDBOA",
    "T 0o0^vs%0|v^vs%0f?)0:TCARS <Ls%0^]k$y~:20iW0xvjx)0?s[80xv?s[80:|tIpFITS .,[80iIx>tI[80POT",
    "ABLE ~R[80NON-POTABLE ~R[80BICYCLE 0xvBICYCLES 0dO0v:dO0.N0xvPEDESTRIANS 0CHILDREN gM0MENS",
    " [80WOMENS [80RESTROOM 0cS[80TOILET 0~RCLOSET 0SHOWER 0cs0ct0PASSPORT f|0CUSTOMS 0BAGGAGE ",
    "CLAIM 0sltk0^@!<~f(0PROHIBITED )0fYpM?#0BOYS [80GIRLS [80COUCH *sU0?hACCOMMODATION 0>sBAGS",
    " 0BELLHOP c%0BED 0.,ysWORSHIP 0OCTAGONAL )0>sTROLLEY 0STUPA 0PAGODA 0HINDU TEMPLE 0HUT 0EL",
    "EVATOR "]),
  (0x1F6DD, [
    "0PLAYGROUND SLIDE 0~f0<kBUOY 0nW*~@0>d0yyil0MOTORWAY 0;o^u0vzdh0|Vv1ax1ax1%ax0%ax0NORTHEAS",
    "T-POINTING ax0axha1ARRIVING "]),
  (0x1F6F0, [
    "0=e0y#k]jr0DIESEL tU0PASSENGER >i0=o0vz=o0CANOE 0SLED 0lLSAUCER 0SKATEBOARD 0AUTO RICKSHAW",
    " 0PICKUP ^)0<z?a"]),
  (0x1F700, [
    "0ALCHEMICAL [8lWQUINTESSENCE 3aw3k]3i)3~R3AQUAFORTIS 3AQUA REGIA 4REGIA-2 4VITAE 4VITAE-2 ",
    "3|@3VINEGAR-2 3VINEGAR-3 3@+3PHILOSOPHERS @+3d1@+3u+@[4SUBLIMATE-2 4SUBLIMATE-3 3CINNABAR ",
    "3=U3NITRE 3VITRIOL 3VITRIOL-2 3<v=U4SALT-2 3mr3SILVER 3pczK4ORE-2 3gEyspc3;/yspc3f/zK3IRON",
    "-COPPER zK3@[ysf/3gEysf/5COPPER-2 3f/bX3=Uysf/bX3@[ys=Uysf/3VERDIGRIS 3TIN zK3LEAD zK3bYzK",
    "3@[ysbY3=UysbY3@[ys=UysbY3|@ysbY3;/ysbY5ANTIMONY-2 43REGULUS-2 3REGULUS-3 3REGULUS-4 3ALKA",
    "LI 3ALKALI-2 3MARCASITE 3SAL-AMMONIAC 3ARSENIC 3REALGAR 3REALGAR-2 3AURIPIGMENT 3BISMUTH z",
    "K3TARTAR 3TARTAR-2 3QUICK LIME 3BORAX 3BORAX-2 3BORAX-3 3ALUM 3yy3@E3TINCTURE 3m*3~Z3POWDE",
    "R 3CALX 3TUTTY 3CAPUT MORTUUM 3SCEPTER ysJOVE 3eV3^_3STARRED ^_3LODESTONE 3?z3URINE 3o4it3",
    "b@3:4b@3d|3POWDERED d|3AMALGAM 3@vSUPER @v5STRATUM-2 3SUBLIMATION 3PRECIPITATE 3DISTILL 3D",
    "ISSOLVE 3DISSOLVE-2 3PURIFY 3PUTREFACTION 3CRUCIBLE 3CRUCIBLE-2 3CRUCIBLE-3 3CRUCIBLE-4 3C",
    "RUCIBLE-5 3a[3csysMARY 5VAPOURS 3RETORT 3o73x33DAY-NIGHT 3vs3nTid4zW"]),
  (0x1F780, [
    "0d1snpj,^@1|Vpj,^@1<dpj,^@1i8pj,^@1?j%fX0u]dk~hfX0dk~hfX0nx~hfX0|xnx~hfX0kTnx~hfX0~hfXf]d1",
    "%fX0<|[^0d1^H@K1?j%@K0s%~h@K0u]~h@K0dk~h@K0nx~h@K0|xnx~h@K0kTnx~h@K0~h@Kf]d1|x%@K4u]@K0@K[",
    "^0d1^Hhr1|x%hr1u]%hr0~hhrf]d1|x%hr4u]hr0hr[^0d1^Htd1|x%td1u]%td0~htdf]d1%td0]mm>gG0s%m>gG0",
    "u]m>gG0dkm>gG0|xdkm>gG1nxm>gG0kTnxm>gG0]m=W0s%=W0u]=W0dk=W0nx=W0|xnx=W0kTnx=W0s%k/@Hb_0u]k",
    "/@Hb_0dkk/@Hb_0nxk/@Hb_0|xnxk/@Hb_0kTnxk/@Hb_0s%?Y@Hb_0u]?Y@Hb_0dk?Y@Hb_0nx?Y@Hb_0|xnx?Y@H",
    "b_0kTnx?Y@Hb_0s%jU@Hb_0u]jU@Hb_0dkjU@Hb_0nxjU@Hb_0|xnxjU@Hb_0s%]::Nd1@c0u]]::Nd1@c0]::Nd1@",
    "c0u]]::N.#@c0s%l4:Nd1@c0u]l4:Nd1@c0l4:Nd1@c0u]l4:N.#@c0<Js%l4:N.#@c0s%k/:Nd1@c0nxk/:Nd1@c0",
    "u]?Y:Nd1@c0nx?Y:Nd1@c0?Y:N.#@c0u]jU:Nd1@c0nxjU:Nd1@c0|xnxjU:Nd1@c0nxjU:N.#@c0s%_n:Nd1@c0nx",
    "_n:Nd1@c3.#@c0fY^@0w:fY^@0fY@K0w:fY@K"]),
  (0x1F7E0, ["0s1zIfX1#5fX1m?fX1:^fX1d$fX1;_@K1dd@K1zI@K1#5@K1m?@K1:^@K1d$@K"]),
  (0x1F7F0, ["0nxj@)"]),
  (0x1F800, [
    "0sr+!%^@by0|1+!%^@by0<h+!%^@by0i9+!%^@by0sr+!u]^@by0|1+!u]^@by0<h+!u]^@by0i9+!u]^@by0sr+!s",
    "1^@by0|1+!s1^@by0<h+!s1^@by0i9+!s1^@by"]),
  (0x1F810, [
    "0sr+!%j]by0|1+!%j]by0<h+!%j]by0i9+!%j]by0sr+!j]by0|1+!j]by0<h+!j]by0i9+!j]by0nxsr+!j]by1|1",
    "+!j]by1<h+!j]by1i9+!j]by1sr+!s1j]by1|1+!s1j]by1<h+!s1j]by1i9+!s1j]by0sr^[+!wd>O0|1^[+!wd>O",
    "0<h^[+!wd>O0i9^[+!wd>O0sr^[+!u]>O0|1^[+!u]>O0<h^[+!u]>O0i9^[+!u]>O0sr^[+!dk>O0|1^[+!dk>O0<",
    "h^[+!dk>O0i9^[+!dk>O0sr^[+!nx>O0|1^[+!nx>O0<h^[+!nx>O0i9^[+!nx>O0sr^[+!|xnx>O0|1^[+!|xnx>O",
    "0<h^[+!|xnx>O0i9^[+!|xnx>O0srk@+0|1k@+0<hk@+0i9k@+0sr@L+0|1@L+0<h@L+0i9@L+0srfx+0|1fx+0<hf",
    "x+0i9fx+0srnxfx+0|1nxfx+0<hnxfx+0i9nxfx+0srnx+0|1nx+0<hnx+0i9nx+"]),
  (0x1F850, ["0sr=5+0|1=5+0<h=5+0i9=5+0x;~a=5+1i*=5+0?/i*=5+1~a=5+0sl,=5+0|Ui7=5+"]),
  (0x1F860, [
    "0~lsrs%ch+1|1s%ch+1<hs%ch+1i9s%ch+1x;~as%ch+2i*s%ch+1?/i*s%ch+2~as%ch+1srch+1|1ch+1<hch+1i",
    "9ch+1x;~ach+2i*ch+1?/i*ch+2~ach+1sru]ch+1|1u]ch+1<hu]ch+1i9u]ch+1x;~au]ch+2i*u]ch+1?/i*u]c",
    "h+2~au]ch+1srnxch+1|1nxch+1<hnxch+1i9nxch+1x;~anxch+2i*nxch+1?/i*nxch+2~anxch+1sr|xnxch+1|",
    "1|xnxch+1<h|xnxch+1i9|xnxch+1x;~a|xnxch+2i*|xnxch+1?/i*|xnxch+2~a|xnxch+"]),
  (0x1F890, [
    "0sr^@by0|1^@by0<h^@by0i9^@by0sr~h+~u^@by0|1~h+~u^@by0<h~h+~u^@by0i9~h+~u^@by0sr+!x[[t0|1+!",
    "x[[t0<h+!x[[t0i9+!x[[t0nx+>O~my/4_z]o4y/nT5]n0srBOTTOM-SHADED ~h+0<hdv>M~h+0sr^i>M~h+0<h^i",
    ">M~h+0srso~h+0<h<e~h+0sr<e~h+0<hso~h+0srcU>N~h+0<hcU>N~h+0srli>N~h+0<hli>N~h+0~h+>O~my/4_z",
    "]o"]),
  (0x1F8B0, ["0+:P|1]dx;~a2<h]dg8?/~a"]),
  (0x1F900, [
    "0fYgGFORMEE !l4iZ4_ziZ30slnTfX!l4iZ4]:iZ4_ziZ4iX30DOWNWARD k8oX2x[oX2oX!iX2x[oX!iX0PINCHED",
    " k[0~hnt0d$nt0PINCHING nZ0ZIPPER-MOUTH k70MONEY-MOUTH k70k7!]e0NERD k70THINKING k70k7!HEAD",
    "-BANDAGE 0ROBOT k70oek70)ys]9o20eZu;nZ0;qcTysnZ0smk~0<ck~0HANDSHAKE 0nZ!pI*vQk[gJ0owt7YOU ",
    "nZ)0k7!COWBOY nj0CLOWN k70NAUSEATED k70<.y~]9lCLAUGHING 0DROOLING k70LYING k70k7zx0SNEEZIN",
    "G k70k7!y/EYEBROW ;q0m@k7!@ckY3y/s1*y/%kU0k7!k?f*fftD0SERIOUS k7![9f*v<0?rk7!?rkY*nZf*v<0k",
    "7!y,v<VOMITING 0SHOCKED k7!EXPLODING np0:l~y0BREAST-FEEDING 0PALMS |U^30SELFIE 0PRINCE 0uW",
    "pFTUXEDO 0vyfL0SHRUG 0.9DOING CARTWHEEL 0JUGGLING 0FENCER 0MODERN PENTATHLON 0WRESTLERS 0~",
    "RPOLO 0HANDBALL 0DIVING uh0WILTED lH0il!DRUMSTICKS 0fbGLASSES 0TUMBLER ml0@I0mqw_0RIFLE 0k",
    "^.,u?0=w.,u?0]n.,u?0BOXING GLOVE 0MARTIAL b:UNIFORM 0CURLING @p0LACROSSE @k*c50SOFTBALL 0l",
    "Lh!0CROISSANT 0AVOCADO 0CUCUMBER 0BACON 0:50CARROT 0BAGUETTE d@0m?SALAD 0SHALLOW z;yslS0ST",
    "UFFED k(0jI0mlysMILK 0PEANUTS 0KIWIFRUIT 0PANCAKES 0DUMPLING 0FORTUNE f#0TAKEOUT d.0CHOPST",
    "ICKS 0dy!@I0gY!STRAW 0COCONUT 0BROCCOLI 0.w0PRETZEL 0gaysu>0SANDWICH 0CANNED lS0LEAFY m?0M",
    "ANGO 0vveW0BAGEL 0?rk7!?rkY*]:nv0YAWNING k70?rk7!TEAR 0k7!.Ao1*.Anj2UNEVEN kY*~Wv<0OVERHEA",
    "TED k70FREEZING k70NINJA 0DISGUISED k70k7oRcT[,1!PLEADING kY0=a0LAB fp0GOGGLES 0HIKING dr0",
    "k&>n0CRAB 0LION k70SCORPION 0TURKEY 0UNICORN k70i%0DUCK 0cq0SHARK 0OWL 0l7k70BUTTERFLY 0hX",
    "0GORILLA 0LIZARD 0RHINOCEROS 0>z0SQUID 0GIRAFFE k70ZEBRA k70HEDGEHOG 0SAUROPOD 0T-REX 0gD0",
    "KANGAROO 0LLAMA 0PEACOCK 0HIPPOPOTAMUS 0PARROT 0RACCOON 0LOBSTER 0MOSQUITO 0MICROBE 0cZ0SW",
    "AN 0MAMMOTH 0DODO 0SLOTH 0OTTER 0ORANGUTAN 0SKUNK 0FLAMINGO 0OYSTER 0c[0BISON 0=t0GUIDE iO",
    "0PROBING CANE 0jgCOMPONENT ;_nQ2g2nQ2BALD 2~hnQ0dm0ss0lT0^h0SUPERHERO 0SUPERVILLAIN 0=NVES",
    "T 0i&!HEARING AID 0MOTORIZED ~g0MANUAL ~g0MECHANICAL bu1ss0CHEESE WEDGE 0CUPCAKE 0=USHAKER",
    " 0dHd.0GARLIC 0ONION 0FALAFEL 0WAFFLE 0BUTTER 0MATE ih0o;gS0d(TEA 0TROLL 0STANDING .90KNEE",
    "LING .90DEAF .90k7!MONOCLE 0ac0fE0y>ac0BEARDED .90.9!HEADSCARF 1pFSTEAMY ROOM 1CLIMBING 1p",
    "Ft6:00MAGE 0FAIRY 0VAMPIRE 0MERPERSON 0ELF 0GENIE 0ZOMBIE 0BRAIN 0zInt0BILLED e90SCARF 0GL",
    "OVES 0fp0SOCKS 0;_GIFT jy0FIRECRACKER 0JIGSAW PUZZLE .x0TEST TUBE 0PETRI h$0DNA i1HELIX 0C",
    "OMPASS 0ABACUS 0k]EXTINGUISHER 0TOOLBOX 0d|0MAGNET 0tk0LOTION du0SPOOL ys].0c5ysYARN 0=N.|",
    "0TEDDY c?0BROOM 0BASKET 0ROLL ysz@0cgys?z0SPONGE 0RECEIPT 0NAZAR AMULET 0w|e+rL2;X2<=2dY2r",
    "42.F0~he+r4<@l1hZ0d1e+r4<@l1hZ0w|e+r4<@l1hZ0~he+rL<@xahZ2;X<@xahZ2<=<@xahZ2dY<@xahZ2r4<@xa",
    "hZ2.F<@xahZ0d1e+rL<@xahZ2;X<@xahZ2<=<@xahZ2dY<@xahZ2r4<@xahZ2.F<@xahZ0w|e+rL<@xahZ2;X<@xah",
    "Z2<=<@xahZ2dY<@xahZ2r4<@xahZ2.F<@xahZ0~he+r4<@y/oi]rhZ0d1e+r4<@y/oi]rhZ0w|e+r4<@y/oi]rhZ0~",
    "he+_frL3;X3<=3dY3r43.F0d1e+_frL3;X3<=3dY3r43.F0w|e+_frL3;X3<=3dY3r43.F0~he+r4<@_zoi_shZ0d1",
    "e+r4<@_zoi_shZ0w|e+r4<@_zoi_shZ0~he+rL<@_zoi>AhZ2;X<@_zoi>AhZ2<=<@_zoi>AhZ2dY<@_zoi>AhZ2r4",
    "<@_zoi>AhZ2.F<@_zoi>AhZ0d1e+rL<@_zoi>AhZ2;X<@_zoi>AhZ2<=<@_zoi>AhZ2dY<@_zoi>AhZ2r4<@_zoi>A",
    "hZ2.F<@_zoi>AhZ0w|e+rL<@_zoi>AhZ2;X<@_zoi>AhZ2<=<@_zoi>AhZ2dY<@_zoi>AhZ2r4<@_zoi>AhZ2.F<@_",
    "zoi>AhZ0~he+r4<@]:oikvhZ0d1e+r4<@]:oikvhZ0w|e+r4<@]:oikvhZ0~he+j[0d1e+j[0w|e+j[0~he+j[<@xa",
    "hZ0d1e+j[<@xahZ0w|e+j[<@xahZ0~he+r62r72r50d1e+r62r72r5"]),
  (0x1FA60, ["0XIANGQI ;_mJ2u02j82o42e_2e82?=1d1mJ2u02j82o42e_2e82?="]),
  (0x1FA70, ["0BALLET SHOES 0ONE-PIECE SWIMSUIT 0BRIEFS 0>v0]u=3"]),
  (0x1FA78, ["0DROP ysda0ADHESIVE BANDAGE 0STETHOSCOPE 0X-RAY 0CRUTCH "]),
  (0x1FA80, ["0YO-YO 0KITE 0PARACHUTE 0dq0MAGIC WAND 0PINATA 0NESTING iR"]),
  (0x1FA90, [
    "0RINGED PLANET 0e>0RAZOR 0cD0DIYA sU0BANJO 0v1n<0ACCORDION 0tYil0COIN 0ee=g0SCREWDRIVER 0L",
    "ADDER 0oX0v90~q0PLUNGER 0SEWING NEEDLE 0KNOT 0BUCKET 0v;TRAP 0TOOTHBRUSH 0nr0PLACARD 0<v0v",
    "9c50o@eb0t8cu0HAMSA "]),
  (0x1FAB0, ["0lK0WORM 0c|0COCKROACH 0POTTED PLANT 0~;0kj0t60CORAL 0jjw]0w]!EGGS "]),
  (0x1FAC0, ["0ANATOMICAL nt0LUNGS 0.Yoe0:luW1.90.9!gN"]),
  (0x1FAD0, ["0BLUEBERRIES 0c%.00y@0k(0TAMALE 0FONDUE 0TEAPOT 0POURING tE0BEANS 0p:"]),
  (0x1FAE0, ["0MELTING k70SALUTING k70k7!y,kY*nZz2v<2PEEKING kU2hov<0i0s*k70d0tC0d)"]),
  (0x1FAF0, ["0nZ!pIk?*]>gJ0<hnZ0srnZ0zxi7nZ1|UnZ0pI:Pb#]9VIEWER 0ntnb"]),
  (0x1FB00, [
    "0d9SEXTANT-1 1SEXTANT-2 1SEXTANT-12 1SEXTANT-3 1SEXTANT-13 1SEXTANT-23 1SEXTANT-123 1SEXTA",
    "NT-4 1SEXTANT-14 1SEXTANT-24 1SEXTANT-124 1SEXTANT-34 1SEXTANT-134 1SEXTANT-234 1SEXTANT-1",
    "234 1SEXTANT-5 1SEXTANT-15 1SEXTANT-25 1SEXTANT-125 1SEXTANT-35 1SEXTANT-235 1SEXTANT-1235",
    " 1SEXTANT-45 1SEXTANT-145 1SEXTANT-245 1SEXTANT-1245 1SEXTANT-345 1SEXTANT-1345 1SEXTANT-2",
    "345 1SEXTANT-12345 1SEXTANT-6 1SEXTANT-16 1SEXTANT-26 1SEXTANT-126 1SEXTANT-36 1SEXTANT-13",
    "6 1SEXTANT-236 1SEXTANT-1236 1SEXTANT-46 1SEXTANT-146 1SEXTANT-1246 1SEXTANT-346 1SEXTANT-",
    "1346 1SEXTANT-2346 1SEXTANT-12346 1SEXTANT-56 1SEXTANT-156 1SEXTANT-256 1SEXTANT-1256 1SEX",
    "TANT-356 1SEXTANT-1356 1SEXTANT-2356 1SEXTANT-12356 1SEXTANT-456 1SEXTANT-1456 1SEXTANT-24",
    "56 1SEXTANT-12456 1SEXTANT-3456 1SEXTANT-13456 1SEXTANT-23456 0tbsld9hotbvQsl^1tbey9,4|XvQ",
    "sl^1tbey9,5sl^1tbey1,d9ho|XvQsl^1|Xey9,4tbvQsl^1|Xey9,5sl^1|Xey5vQsl^1|XvQ,5ey^1tbvQ,5sl^1",
    "tbvQ,5ey^1|XvQ,5sl^1|XvQ,5ey^1|X,1sld9ho|Xey^1|XvQ,5sl^1|XvQ,5ey^1tbvQ,5sl^1tbvQ,5ey^1tb,5",
    "vQsl^1tbvQ,0|X,d9hotbvQsl^1tbey9,4|XvQsl^1tbey9,5sl^1tbey1sld9ho|XvQsl^1|Xey9,4tbvQsl^1|Xe",
    "y9,5sl^1|Xey5vQsl^1|XvQ,5ey^1tbvQ,5sl^1tbvQ,5ey^1|XvQ,5sl^1|XvQ,5ey^1|X,1,d9ho|Xey^1|XvQ,5",
    "sl^1|XvQ,5ey^1tbvQ,5sl^1tbvQ,5ey^1tb,5vQsl^1tbvQ,1*,*tb^]]:;Vd90sl*tb*,^]]:;Vd90|X*sl*tb^]",
    "]:;Vd90sl*|X*,^]]:;Vd91^]y/;Ud90|X^]y/;Ud90,^]y/;Ud90tb^]y/;Ud9"]),
  (0x1FB7C, [
    "0sl*tby/jWd92|Xy/jWd90,*|Xy/jWd92tby/jWd90|X*tby/jWd90o0y/jWBLOCK-1358 0|Xy/;Ud91]:jXd91k/",
    "jXd91]:;Vd91=+jXd90,y/;Ud91]:jXd91k/jXd91]:;Vd91=+jXd90slnTu]>L0,nTu]>L0|XnTu]>L0tbnTu]>L0",
    "p4u]>L0|XnTd9*tbnTp4u]>L2p4u]>L*tbnTd9"]),
  (0x1FB94, [
    "0slnTp4u]>L*,nTd90e$dgk:0p4e$dgk:0nxo0k:0|Xsl^1tb,k:1,^1tbslk:1*tb^]nTd90sl*,^]nTd90|Xsl^]",
    "u]>L1,^]u]>L0tb,^]u]>L1sl^]u]>L0d.ifs%ho|Xey^1vQsl8,4vQsl^1tbey5,^1tbey4|Xey^1vQsl^1tbey8,",
    "^1tbey4vQsl^1tbey^1vQ,7|Xey^1vQ,4|Xey^1vQsl*vQ,^1tbey8,*vQsl^1tbey9^1tbey^1vQsl8sl^1tbey^1",
    "vQ,4vQsl^1|Xey^1vQ,^1tbey5,^1|Xey^1vQsl^1tbey4hr3o0!|v@z0ARROWHEAD-SHAPED :O0p4e!u80slnT=B",
    "uW0,nT=BuW0p4i9+!^Isr0sr+*|X*tby/jWd90<h+*|X*tby/jWd90i9+*,y/jWd90|1+*,y/jWd90slnTlN0,nTlN",
    "0VOIDED m>gG0,y,@LiX0w:hogG2vQ,^1tbey2hr0~hnx=W!<~f(0sl]n~h,:PpI0vQ]n~h,:PpI0,]n~h,:PpI0w:",
    "@L;Yu80@kkz2!ARMS ;q2LEANING sl3,2!ig0~h|VfA"]),
  (0x1FBF0, ["0SEGMENTED h:/S2y/2_z2]:2l42k/2?Y2=+2jU2x8"]),
  (0xE0001, ["0LANGUAGE [o"]),
  (0xE0020, [
    "0[o?$1kNu81;3u81yH)1iQ)1.2)1bG1bb1slz%1,z%1b_1:G)1ft1ot1lo@q1?>1h:/S2y/2_z2]:2l42k/2?Y2=+2",
    "jU2x81fr1=_1s<)1j@)1m=)1;Yu81fub#1s7($aI4cL4eR4gp4i/4k44lx4nL4ow4pu4qM4r*4t:4wT4yh4zh4:*4;",
    "a4=G4[d4_^4|d4~D4~$4#D4/A1sl@Kd;1<J?>1,@Kd;1f2a21t8s*1m:a21s7%$aI4cL4eR4gp4i/4k44lx4nL4ow4",
    "pu4qM4r*4t:4wT4yh4zh4:*4;a4=G4[d4_^4|d4~D4~$4#D4/A1slg2d;1|vs*1,g2d;1^C0e4[o"])]

end ModuleDocs.CharacterName
